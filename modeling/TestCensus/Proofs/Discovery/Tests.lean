import TestCensus.Proofs.Discovery.Declarations
import TestCensus.Proofs.Source.StatementPlaces

/-!
# Discovery is exact

The tests and the redeclarations of a file are together the test definitions of
its tree, each of them once.  They are compared by their sites: name, joined class
path and line.

*Settling.*  Adding a declaration adds its site, either to the tests or to the
redeclarations (`Settled.add_sites`), so settling a list of declarations keeps all
sites (`settle_sites`).  What stands among the tests afterwards is one of the
declarations (`mem_settle`).

*Discovery.*  `discover_exact` puts this together with the walk over the tree and
with the places of definitions in the source.
-/

namespace TestCensus

open TestCensus.Source

/-! ## Sites -/

/-- Where a function is declared, and under which name. -/
structure Site where
  /-- The name of the function. -/
  name : String
  /-- The names of the classes around it, joined. -/
  className : Option String
  /-- The line on which the definition starts, counted from one. -/
  line : Nat
deriving DecidableEq, Repr

/-- The site of a declaration. -/
def Declaration.site (d : Declaration) : Site := ⟨d.name, className? d.classPath, d.line⟩

/-- The site of a redeclaration. -/
def Redeclaration.site (r : Redeclaration) : Site := ⟨r.name, className? r.classPath, r.line⟩

/-- The site of a definition. -/
def Source.Definition.site (d : Definition) : Site :=
  ⟨d.head.name, className? d.classPath, d.head.line⟩

/-- A definition met in a module declares a test at its own site. -/
theorem declaration_site {rules : NamingRules} {statements : List Statement} (d : Definition) :
    (d.declaration rules (Scope.ofModule rules statements)).site = d.site := by
  rw [Declaration.site, declaration_classPath]
  rfl

/-! ## Settling -/

/-- The sites of all declarations that were settled. -/
def Settled.sites (s : Settled) : List Site :=
  s.tests.map Declaration.site ++ s.redeclared.map Redeclaration.site

/-- Adding a declaration adds its site. -/
theorem Settled.add_sites (s : Settled) (d : Declaration) :
    (s.add d).sites.Perm (d.site :: s.sites) := by
  unfold Settled.add Settled.sites
  split
  · rw [List.map_append, List.append_assoc]
    exact List.perm_middle
  · rw [List.map_append, ← List.append_assoc]
    exact List.perm_append_singleton _ _

theorem foldl_add_sites (ds : List Declaration) (s : Settled) :
    (ds.foldl Settled.add s).sites.Perm (ds.map Declaration.site ++ s.sites) := by
  induction ds generalizing s with
  | nil => exact .refl _
  | cons d ds ih =>
      rw [List.foldl_cons, List.map_cons]
      refine (ih (s.add d)).trans ?_
      refine ((s.add_sites d).append_left _).trans ?_
      exact List.perm_middle

/-- Settling keeps all sites. -/
theorem settle_sites (ds : List Declaration) :
    (settle ds).sites.Perm (ds.map Declaration.site) := by
  have hsites := foldl_add_sites ds ⟨[], []⟩
  rwa [show (Settled.mk [] []).sites = [] from rfl, List.append_nil] at hsites

theorem Settled.mem_add {s : Settled} {d t : Declaration} (h : t ∈ (s.add d).tests) :
    t ∈ s.tests ∨ t = d := by
  unfold Settled.add at h
  split at h
  · simpa using h
  · exact Or.inl h

/-- The tests are among the declarations. -/
theorem mem_settle {ds : List Declaration} {t : Declaration} (h : t ∈ (settle ds).tests) :
    t ∈ ds := by
  have hfold : ∀ s : Settled, t ∈ (ds.foldl Settled.add s).tests → t ∈ s.tests ∨ t ∈ ds := by
    clear h
    induction ds with
    | nil => exact fun s h => Or.inl h
    | cons d ds ih =>
        intro s h
        rcases ih (s.add d) h with h | h
        · rcases Settled.mem_add h with h | rfl
          · exact Or.inl h
          · exact Or.inr (.head _)
        · exact Or.inr (.tail _ h)
  rcases hfold _ h with h | h
  · cases h
  · exact h

/-! ## Discovery -/

theorem discover_eq_ok {rules : NamingRules} {path source : String} {f : ParsedFile} :
    discover rules path source = .ok f ↔
      ∃ statements, readSource source = .ok statements ∧ f = discoverIn rules path statements := by
  unfold discover
  cases readSource source with
  | error e => simp [Except.map]
  | ok statements => simp [Except.map, eq_comm]

/-- If the tree of a source declares one test, it is the only one discovered. -/
theorem exists_only_test {α : Type} {rules : NamingRules} {source : String}
    {view : Declaration → α} {a : α}
    (h : ((readSource source).toOption.map fun ss => (testDeclarations rules ss).map view) =
      some [a]) (path : String) :
    ∃ t, discover rules path source = .ok ⟨path, [t], []⟩ ∧ view t = a := by
  cases hread : readSource source with
  | error e => simp [hread, Except.toOption] at h
  | ok statements =>
      simp only [hread, Except.toOption, Option.map_some, Option.some.injEq] at h
      obtain ⟨t, htests, ht⟩ := List.map_eq_singleton_iff.1 h
      refine ⟨t, discover_eq_ok.2 ⟨statements, hread, ?_⟩, ht⟩
      have hsettled : settle [t] = ⟨[t], []⟩ := rfl
      rw [discoverIn, declarations_ofModule, htests, hsettled, List.mergeSort_singleton]

theorem discoverIn_sites (rules : NamingRules) (path : String) (statements : List Statement) :
    ((discoverIn rules path statements).tests.map Declaration.site ++
        (discoverIn rules path statements).redeclared.map Redeclaration.site).Perm
      (((definitions statements).filter (·.IsTest rules)).map Definition.site) := by
  have hsort := List.mergeSort_perm
    (settle (declarations rules (Scope.ofModule rules statements) statements)).tests
    Declaration.comesBefore
  refine ((hsort.map Declaration.site).append_right _).trans ?_
  refine (settle_sites _).trans (.of_eq ?_)
  rw [declarations_ofModule, testDeclarations, List.map_map]
  exact List.map_congr_left fun d _ => declaration_site d

/-- Discovery is exact.  The tests and the redeclarations of a source are together
the definitions of its tree that are tests, each once, by name, joined class path
and line.  The definitions stand in the source one after the other, each with its
keyword on the line that it says. -/
theorem discover_exact {rules : NamingRules} {path source : String} {f : ParsedFile}
    (h : discover rules path source = .ok f) :
    ∃ statements, readSource source = .ok statements ∧
      (f.tests.map Declaration.site ++ f.redeclared.map Redeclaration.site).Perm
        (((definitions statements).filter (·.IsTest rules)).map Definition.site) ∧
      ∃ offsets : List Nat, offsets.Pairwise (· < ·) ∧
        List.Forall₂ (fun d offset => d.head.StandsAt source.toList offset)
          (definitions statements) offsets := by
  obtain ⟨statements, hread, rfl⟩ := discover_eq_ok.1 h
  exact ⟨statements, hread, discoverIn_sites rules path statements, readSource_offsets hread⟩

/-- A source with tests at several depths: in a test class in a class that is none,
behind a condition, and again under the same name. -/
def nestedSource : String :=
  "class A:\n class TestB:\n  async def test_a():0\n def test_b():0\n" ++
  "if x:\n @y\n def test_c():0\ndef test_c():0\n"

theorem discover_exact_nested :
    ∃ f statements, discover .standard "test_shop.py" nestedSource = .ok f ∧
      readSource nestedSource = .ok statements ∧
      (f.tests.map Declaration.site ++ f.redeclared.map Redeclaration.site).Perm
        [⟨"test_a", some "A::TestB", 3⟩, ⟨"test_c", none, 7⟩, ⟨"test_c", none, 8⟩] ∧
      ∃ offsets : List Nat, offsets.Pairwise (· < ·) ∧
        List.Forall₂ (fun d offset => d.head.StandsAt nestedSource.toList offset)
          (definitions statements) offsets := by
  have hsites : ((readSource nestedSource).toOption.map fun ss =>
      ((definitions ss).filter (·.IsTest .standard)).map Definition.site) =
      some [⟨"test_a", some "A::TestB", 3⟩, ⟨"test_c", none, 7⟩, ⟨"test_c", none, 8⟩] := by
    decide +kernel
  cases hread : readSource nestedSource with
  | error e => simp [hread, Except.toOption] at hsites
  | ok statements =>
      obtain ⟨statements', hread', hperm, hoffsets⟩ :=
        discover_exact (discover_eq_ok.2 ⟨statements, hread, rfl⟩)
      rw [hread] at hsites hread'
      cases hread'
      simp only [Except.toOption, Option.map_some, Option.some.injEq] at hsites
      rw [hsites] at hperm
      exact ⟨_, statements, discover_eq_ok.2 ⟨statements, hread, rfl⟩, rfl, hperm, hoffsets⟩

end TestCensus
