import TestCensus.Census.Run
import TestCensus.Proofs.Discovery.Tests

/-!
# Markers are exact

The markers of a test are the categories that the module names, those that each
test class around the test names, and those that its own decorators name.  The
scope of a definition carries the first two down to it.

*Expressions.*  `Decoration.Names` lists the three shapes that name a category,
and `Statement.Marks` the three forms of a marker assignment.  Both are shown to
be what the readers compute (`names_iff`, `marks_iff`).

*Scopes.*  Going into a test class adds what the class names and nothing else
(`Scope.mem_into`), and by induction the scope of a definition inherits what the
scope around it does and what is named on the way (`Scope.mem_inside`).

*Censuses.*  A named category belongs to the taxonomy, so every marker of every
function that a census counts does.
-/

namespace TestCensus

open TestCensus.Source

/-! ## Expressions -/

theorem Category.named?_name {id c : String} :
    (named? id).map Category.name = some c ↔ id = c ∧ c ∈ names := by
  constructor
  · intro h
    obtain ⟨category, hnamed, rfl⟩ := Option.map_eq_some_iff.1 h
    obtain ⟨hall, hname⟩ := named?_eq_some hnamed
    exact ⟨hname.symm, List.mem_map_of_mem hall⟩
  · rintro ⟨rfl, hc⟩
    obtain ⟨category, hnamed⟩ := Option.isSome_iff_exists.1 (isKnown_iff.2 hc)
    rw [hnamed, Option.map_some, (named?_eq_some hnamed).2]

/-- The decoration names a category, where `ns` is the module whose member `mark`
carries the markers. -/
inductive Decoration.Names (ns : String) : Decoration → String → Prop where
  /-- The path of the category. -/
  | path {c : String} : c ∈ Category.names → Names ns (.dotted [ns, "mark", c]) c
  /-- A call of the path. -/
  | call {c : String} (arguments : List Argument) : c ∈ Category.names →
      Names ns (.call (.dotted [ns, "mark", c]) arguments) c
  /-- The bare name. -/
  | bare {c : String} : c ∈ Category.names → Names ns (.name c) c

namespace Decoration

variable {ns c : String}

theorem pathCategory?_name {segments : List String} :
    (pathCategory? ns segments).map Category.name = some c ↔
      segments = [ns, "mark", c] ∧ c ∈ Category.names := by
  unfold pathCategory? markSegment?
  split
  · rename_i first second segment
    split
    · rename_i h
      obtain ⟨rfl, rfl⟩ := h
      rw [Option.bind_some, Category.named?_name]
      simp
    · rename_i h
      rw [not_and] at h
      simp only [Option.bind_none, Option.map_none, reduceCtorEq, List.cons.injEq, false_iff]
      rintro ⟨⟨hfirst, hsecond, -⟩, -⟩
      exact h hfirst hsecond
  · rename_i h
    simp only [Option.bind_none, Option.map_none, reduceCtorEq, false_iff]
    rintro ⟨rfl, -⟩
    exact h _ _ _ rfl

theorem names_iff {a : Decoration} :
    (a.category? ns).map Category.name = some c ↔ a.Names ns c := by
  constructor
  · intro h
    unfold category? at h
    split at h
    · obtain ⟨rfl, hc⟩ := pathCategory?_name.1 h
      exact .path hc
    · obtain ⟨rfl, hc⟩ := pathCategory?_name.1 h
      exact .call _ hc
    · cases h
    · obtain ⟨rfl, hc⟩ := Category.named?_name.1 h
      exact .bare hc
    · cases h
  · intro h
    cases h with
    | path hc => exact pathCategory?_name.2 ⟨rfl, hc⟩
    | call _ hc => exact pathCategory?_name.2 ⟨rfl, hc⟩
    | bare hc => exact Category.named?_name.2 ⟨rfl, hc⟩

theorem Names.mem_names {a : Decoration} (h : a.Names ns c) : c ∈ Category.names := by
  cases h with
  | path hc => exact hc
  | call _ hc => exact hc
  | bare hc => exact hc

/-- The names of a list of decorations are what one of them names. -/
theorem mem_categoryNames {as : List Decoration} :
    c ∈ categoryNames ns as ↔ ∃ a ∈ as, a.Names ns c := by
  simp only [categoryNames, List.mem_filterMap, names_iff]

end Decoration

/-! ## Marker assignments -/

/-- The statement is a marker assignment that names the category. -/
inductive Source.Statement.Marks (ns : String) : Statement → String → Prop where
  /-- The value names it. -/
  | value {e : Expr} {c : String} : e.decoration.Names ns c →
      Marks ns (.small (.assignment (some "pytestmark") (some (.single e)))) c
  /-- The value is a list, and an element names it. -/
  | inList {parts : List Part} {text : String} {e : Expr} {c : String} : .item e ∈ parts →
      e.decoration.Names ns c →
      Marks ns (.small (.assignment (some "pytestmark") (some (.single (.list parts text))))) c
  /-- The value is a tuple in brackets, and an element names it. -/
  | inTuple {parts : List Part} {text : String} {e : Expr} {c : String} : .item e ∈ parts →
      e.decoration.Names ns c →
      Marks ns (.small (.assignment (some "pytestmark") (some (.single (.tuple parts text))))) c

/-- Among the parts between brackets only the expressions name anything. -/
theorem exists_part_names {ns c : String} {parts : List Part} :
    (∃ a ∈ (solid parts).map Part.decoration, a.Names ns c) ↔
      ∃ e, Part.item e ∈ parts ∧ e.decoration.Names ns c := by
  constructor
  · rintro ⟨a, ha, hnames⟩
    obtain ⟨p, hp, rfl⟩ := List.mem_map.1 ha
    cases p with
    | filler f => cases f <;> cases hnames
    | item e => exact ⟨e, (List.mem_filter.1 hp).1, hnames⟩
  · rintro ⟨e, he, hnames⟩
    exact ⟨e.decoration, List.mem_map_of_mem (List.mem_filter.2 ⟨he, rfl⟩), hnames⟩

namespace Source.Statement

variable {ns c : String}

/-- An expression that names a category is no list and no tuple, and is taken as it is. -/
theorem decorations_of_names {e : Expr} (h : e.decoration.Names ns c) :
    (Assigned.single e).decorations = [e.decoration] := by
  cases e with
  | list parts => cases h
  | tuple parts => cases h
  | _ => rfl

/-- A marker assignment names what one of its decorations names. -/
theorem marks_iff {s : Statement} :
    s.Marks ns c ↔ ∃ a ∈ s.markerDecorations, a.Names ns c := by
  constructor
  · intro h
    cases h with
    | @value e c h =>
        refine ⟨e.decoration, ?_, h⟩
        show e.decoration ∈ (Assigned.single e).decorations
        rw [decorations_of_names h]
        exact .head _
    | inList he h => exact exists_part_names.2 ⟨_, he, h⟩
    | inTuple he h => exact exists_part_names.2 ⟨_, he, h⟩
  · rintro ⟨a, ha, hnames⟩
    unfold markerDecorations at ha
    split at ha
    · rename_i name value
      split at ha
      · rename_i hname
        subst hname
        unfold Assigned.decorations at ha
        split at ha
        · obtain ⟨e, he, h⟩ := exists_part_names.1 ⟨a, ha, hnames⟩
          exact .inList he h
        · obtain ⟨e, he, h⟩ := exists_part_names.1 ⟨a, ha, hnames⟩
          exact .inTuple he h
        · obtain rfl := List.mem_singleton.1 ha
          exact .value hnames
        · cases ha
        · cases ha
      · cases ha
    · cases ha

/-- The marker assignments of a block name what one of its statements names. -/
theorem exists_blockDecorations {block : List Statement} :
    (∃ a ∈ blockDecorations block, a.Names ns c) ↔ ∃ s ∈ block, s.Marks ns c := by
  simp only [blockDecorations, List.mem_flatMap, marks_iff]
  constructor
  · rintro ⟨a, ⟨s, hs, ha⟩, hnames⟩
    exact ⟨s, hs, a, ha, hnames⟩
  · rintro ⟨s, hs, a, ha, hnames⟩
    exact ⟨a, ⟨s, hs, ha⟩, hnames⟩

end Source.Statement

/-! ## Scopes -/

/-- The class is a test class that names the category. -/
inductive Source.Surrounding.Marks (rules : NamingRules) : Surrounding → String → Prop where
  /-- A decorator names it. -/
  | decorator {decorators : List Decorator} {name : String} {body : List Statement}
      {a : Decoration} {c : String} : rules.TestClass name → a ∈ decorations decorators →
      a.Names rules.markModule c → Marks rules (.classBody decorators name body) c
  /-- A marker assignment directly in the body names it. -/
  | assignment {decorators : List Decorator} {name : String} {body : List Statement}
      {s : Statement} {c : String} : rules.TestClass name → s ∈ body →
      s.Marks rules.markModule c → Marks rules (.classBody decorators name body) c

/-- The definition carries the category, in a module of the given statements. -/
inductive Source.Definition.Carries (rules : NamingRules) (statements : List Statement)
    (d : Definition) (c : String) : Prop where
  /-- A marker assignment directly in the module names it. -/
  | module {s : Statement} : s ∈ statements → s.Marks rules.markModule c →
      Carries rules statements d c
  /-- A test class around the definition names it. -/
  | enclosing {s : Surrounding} : s ∈ d.around → s.Marks rules c → Carries rules statements d c
  /-- A decorator of the definition names it. -/
  | own {a : Decoration} : a ∈ decorations d.decorators → a.Names rules.markModule c →
      Carries rules statements d c

variable {rules : NamingRules} {statements : List Statement} {c : String}

theorem Source.Surrounding.marks_classBody_iff {decorators : List Decorator} {name : String}
    {body : List Statement} : (Surrounding.classBody decorators name body).Marks rules c ↔
      rules.TestClass name ∧
        ∃ a ∈ decorations decorators ++ blockDecorations body, a.Names rules.markModule c := by
  constructor
  · intro h
    cases h with
    | decorator htest ha hnames => exact ⟨htest, _, List.mem_append_left _ ha, hnames⟩
    | assignment htest hs hmarks =>
        obtain ⟨a, ha, hnames⟩ := Statement.exists_blockDecorations.2 ⟨_, hs, hmarks⟩
        exact ⟨htest, a, List.mem_append_right _ ha, hnames⟩
  · rintro ⟨htest, a, ha, hnames⟩
    rcases List.mem_append.1 ha with ha | ha
    · exact .decorator htest ha hnames
    · obtain ⟨s, hs, hmarks⟩ := Statement.exists_blockDecorations.1 ⟨a, ha, hnames⟩
      exact .assignment htest hs hmarks

theorem Scope.mem_ofModule :
    c ∈ (Scope.ofModule rules statements).inherited ↔
      ∃ s ∈ statements, s.Marks rules.markModule c := by
  show c ∈ MarkerSet.ofList _ ↔ _
  rw [MarkerSet.mem_ofList, Decoration.mem_categoryNames, Statement.exists_blockDecorations]

/-- A class body inherits what its class names, if it is a test class, and what is
inherited around it. -/
theorem Scope.mem_into {scope : Scope} {s : Surrounding} :
    c ∈ (scope.into rules s).inherited ↔ c ∈ scope.inherited ∨ s.Marks rules c := by
  cases s with
  | classBody decorators name body =>
      unfold Scope.into Scope.enter
      dsimp only
      rw [Surrounding.marks_classBody_iff, ← NamingRules.isTestClass_iff]
      split
      · rename_i htest
        rw [MarkerSet.mem_insertAll, Decoration.mem_categoryNames, or_comm]
        exact or_congr_right (and_iff_right htest).symm
      · rename_i htest
        exact (or_iff_left fun h => htest h.1).symm
  | block kind => exact (or_iff_left nofun).symm
  | functionBody head => exact (or_iff_left nofun).symm

/-- What is inherited inside is what is inherited outside and what is named on the
way. -/
theorem Scope.mem_inside {scope : Scope} {around : List Surrounding} :
    c ∈ (scope.inside rules around).inherited ↔
      c ∈ scope.inherited ∨ ∃ s ∈ around, s.Marks rules c := by
  induction around generalizing scope with
  | nil => simp
  | cons s around ih =>
      rw [Scope.inside_cons, ih, Scope.mem_into, or_assoc]
      simp only [List.mem_cons, exists_eq_or_imp]

/-- The markers of a declared test are what its definition carries. -/
theorem mem_markers_iff {d : Definition} :
    c ∈ (d.declaration rules (Scope.ofModule rules statements)).markers ↔
      d.Carries rules statements c := by
  show c ∈ MarkerSet.insertAll _ _ ↔ _
  rw [MarkerSet.mem_insertAll, Decoration.mem_categoryNames, Scope.mem_inside, Scope.mem_ofModule]
  constructor
  · rintro (⟨a, ha, hnames⟩ | ⟨s, hs, hmarks⟩ | ⟨s, hs, hmarks⟩)
    · exact .own ha hnames
    · exact .module hs hmarks
    · exact .enclosing hs hmarks
  · intro h
    cases h with
    | module hs hmarks => exact Or.inr (Or.inl ⟨_, hs, hmarks⟩)
    | enclosing hs hmarks => exact Or.inr (Or.inr ⟨_, hs, hmarks⟩)
    | own ha hnames => exact Or.inl ⟨_, ha, hnames⟩

/-! ## The taxonomy -/

theorem Source.Statement.Marks.mem_names {ns : String} {s : Statement} (h : s.Marks ns c) :
    c ∈ Category.names := by
  obtain ⟨a, _, hnames⟩ := Statement.marks_iff.1 h
  exact hnames.mem_names

/-- Only categories of the taxonomy are carried. -/
theorem Source.Definition.Carries.mem_names {d : Definition} (h : d.Carries rules statements c) :
    c ∈ Category.names := by
  cases h with
  | module _ hmarks => exact hmarks.mem_names
  | enclosing _ hmarks =>
      cases hmarks with
      | decorator _ _ hnames => exact hnames.mem_names
      | assignment _ _ hmarks => exact hmarks.mem_names
  | own _ hnames => exact hnames.mem_names

/-! ## Tests and censuses -/

/-- Every test of a source is declared by a definition of its tree. -/
theorem exists_definition {path source : String} {f : ParsedFile}
    (h : discover rules path source = .ok f) :
    ∃ statements, readSource source = .ok statements ∧
      ∀ t ∈ f.tests, ∃ d ∈ definitions statements, d.IsTest rules ∧
        d.declaration rules (Scope.ofModule rules statements) = t := by
  obtain ⟨statements, hread, rfl⟩ := discover_eq_ok.1 h
  refine ⟨statements, hread, fun t ht => ?_⟩
  have hdeclared := mem_settle (List.mem_mergeSort.1 ht)
  rw [declarations_eq_collected, collected] at hdeclared
  obtain ⟨d, hd, rfl⟩ := List.mem_map.1 hdeclared
  obtain ⟨hd, hcollected⟩ := List.mem_filter.1 hd
  exact ⟨d, hd, isCollected_ofModule.1 hcollected, rfl⟩

/-- The functions in the record of a file have markers of the taxonomy only. -/
theorem ofReading_markers {shown : String} {path : Files.Path}
    {reading : Except Files.PathError String} {fn : TestFunction}
    (hfn : fn ∈ (FileRecord.ofReading rules shown path reading).file.functions)
    (hc : c ∈ fn.markers) : c ∈ Category.names := by
  cases reading with
  | error e => cases hfn
  | ok source =>
      unfold FileRecord.ofReading FileRecord.ofSource at hfn
      dsimp only at hfn
      split at hfn
      · rename_i f hdiscover
        obtain ⟨statements, -, htests⟩ := exists_definition hdiscover
        obtain ⟨t, ht, rfl⟩ := List.mem_map.1 hfn
        obtain ⟨d, -, -, rfl⟩ := htests t ht
        exact (mem_markers_iff.1 hc).mem_names
      · cases hfn

/-- Markers are exact: a test has the categories that its definition carries, and
every marker that a census counts belongs to the taxonomy. -/
theorem discover_markers_exact :
    (∀ {rules : NamingRules} {path source : String} {f : ParsedFile},
      discover rules path source = .ok f →
        ∃ statements, readSource source = .ok statements ∧
          ∀ t ∈ f.tests, ∃ d ∈ definitions statements, d.IsTest rules ∧ t.site = d.site ∧
            t.decorators = decorations d.decorators ∧
            ∀ c, c ∈ t.markers ↔ d.Carries rules statements c) ∧
    ∀ {tree : Files.Tree} {settings : Settings} {collector : Option Collector}
      {seen : CheckPoints} {base : List Files.Component} {roots : List Files.Path}
      {workforce : Workforce} {tally : Tally},
      Census.run tree settings collector seen base roots workforce = .ok tally →
        ∀ file ∈ tally.files, ∀ fn ∈ file.functions, ∀ c ∈ fn.markers, c ∈ Category.names := by
  constructor
  · intro rules path source f h
    obtain ⟨statements, hread, htests⟩ := exists_definition h
    refine ⟨statements, hread, fun t ht => ?_⟩
    obtain ⟨d, hd, htest, rfl⟩ := htests t ht
    exact ⟨d, hd, htest, declaration_site d, rfl, fun c => mem_markers_iff⟩
  · intro tree settings collector seen base roots workforce tally h file hfile fn hfn c hc
    obtain ⟨located, -, -, -, -, -, rfl⟩ := Census.run_eq_ok.1 h
    obtain ⟨record, hrecord, rfl⟩ := List.mem_map.1 hfile
    obtain ⟨path, -, rfl⟩ := List.mem_map.1 hrecord
    exact ofReading_markers hfn hc

/-- A source in which a test has markers from the module, from a test class around
a class that is none, and its own. -/
def markedSource : String :=
  "pytestmark = unit\n@slow\nclass TestA:\n class B:\n" ++
  "  class TestC:\n   @pytest.mark.e2e(1)\n   def test_a():0\n"

/-- A tree with one test file. -/
def markedTree : Files.Tree :=
  ⟨.directory [("test_a.py", .file markedSource.toUTF8.toList)], ⟨"/"⟩⟩

theorem discover_markers_exact_nested :
    (∃ f statements, discover .standard "test_a.py" markedSource = .ok f ∧
      readSource markedSource = .ok statements ∧
      (∃ t ∈ f.tests, t.markers.names = ["e2e", "slow", "unit"]) ∧
      ∀ t ∈ f.tests, ∃ d ∈ definitions statements, d.IsTest .standard ∧ t.site = d.site ∧
        t.decorators = decorations d.decorators ∧
        ∀ c, c ∈ t.markers ↔ d.Carries .standard statements c) ∧
    ∃ tally, Census.run markedTree {} none .never [] [⟨"/test_a.py"⟩] .willing = .ok tally ∧
      tally.files ≠ [] ∧
      ∀ file ∈ tally.files, ∀ fn ∈ file.functions, ∀ c ∈ fn.markers, c ∈ Category.names := by
  constructor
  · have hmarkers : ((readSource markedSource).toOption.map fun ss =>
        (settle (declarations .standard (.ofModule .standard ss) ss)).tests.map (·.markers.names)) =
        some [["e2e", "slow", "unit"]] := by decide +kernel
    cases hread : readSource markedSource with
    | error e => simp [hread, Except.toOption] at hmarkers
    | ok statements =>
        have hdiscover : discover .standard "test_a.py" markedSource =
            .ok (discoverIn .standard "test_a.py" statements) :=
          discover_eq_ok.2 ⟨statements, hread, rfl⟩
        obtain ⟨statements', hread', htests⟩ := discover_markers_exact.1 hdiscover
        rw [hread] at hmarkers hread'
        cases hread'
        simp only [Except.toOption, Option.map_some, Option.some.injEq] at hmarkers
        obtain ⟨t, ht, hnames⟩ := List.mem_map.1 (hmarkers ▸ List.mem_singleton_self _)
        exact ⟨_, statements, hdiscover, rfl, ⟨t, List.mem_mergeSort.2 ht, hnames⟩, htests⟩
  · have hfiles : (ScanSettings.locateFrom {} markedTree CheckPoints.never.atEvent 0
        [⟨"/test_a.py"⟩]).toOption.map Files.LocatedFiles.files = some [⟨"/test_a.py"⟩] := by
      decide +kernel
    cases hfrom : ScanSettings.locateFrom {} markedTree CheckPoints.never.atEvent 0
        [⟨"/test_a.py"⟩] with
    | error e => simp [hfrom, Except.toOption] at hfiles
    | ok located =>
        simp only [hfrom, Except.toOption, Option.map_some, Option.some.injEq] at hfiles
        have hrun : Census.run markedTree {} none .never [] [⟨"/test_a.py"⟩] .willing = .ok _ :=
          Census.run_eq_ok.2 ⟨{ located with files := Files.inOrder located.files },
            by simp [ScanSettings.locate, hfrom, bind, Except.bind, pure, Except.pure], ⟨_, rfl⟩,
            CheckPoints.any_atFile_never _, rfl, rfl, rfl⟩
        refine ⟨_, hrun, ?_, discover_markers_exact.2 hrun⟩
        simp [Census.tally, hfiles, Files.inOrder, Files.dropRepeated]

end TestCensus
