import TestCensus.Proofs.Discovery.Markers
import TestCensus.Proofs.Docstring.Literals
import TestCensus.Proofs.Source.Equality
import TestCensus.Proofs.Source.RewrittenDecorations
import TestCensus.Proofs.Source.WholeStatements

/-!
# Docstrings of tests

A function is documented if its body starts with a statement of nothing but string literals
(`Documents`).  Discovery decides this on the parts of the first statement, and parts are
expressions, comments and escaped line ends, but not commas.  So literals with a comma behind
them, which are a tuple, are taken for a docstring.  This is the only difference to the rule
(`docstring?_documents_iff`).

`discover_docstrings` says which docstring every test has, and when it is the one that the
rule gives.
-/

namespace TestCensus

open TestCensus.Source

namespace Source

/-! ## Statements of literals -/

/-- The statement consists of nothing but literals: one, or several adjacent ones.  `comma`
says that there is a comma behind them. -/
inductive Statement.ConsistsOf (comma : Bool) : Statement → List String → Prop where
  /-- One literal. -/
  | one {parts : List Part} {text : String} : solid parts = [.item (.literal text)] →
      ConsistsOf comma (.small (.expressions parts comma)) [text]
  /-- Several adjacent literals. -/
  | several {parts : List Part} {pieces : List String} {text : String} :
      solid parts = [.item (.literals pieces text)] →
      ConsistsOf comma (.small (.expressions parts comma)) pieces

/-- The statement consists of text literals, and these are their contents. -/
def Statement.Writes (comma : Bool) (s : Statement) (contents : List (List Char)) : Prop :=
  ∃ pieces, s.ConsistsOf comma pieces ∧
    List.Forall₂ IsTextLiteral (pieces.map String.toList) contents

/-- The text is the docstring that the body writes: comments and escaped line ends aside, the
first statement consists of text literals and nothing else. -/
def Documents (body : List Statement) (doc : String) : Prop :=
  ∃ s contents, body.find? (!·.isFiller) = some s ∧ s.Writes false contents ∧
    doc = String.ofList (Docstring.clean contents.flatten)

/-- Comments and escaped line ends aside, the body starts with text literals and a comma. -/
def StartsWithTuple (body : List Statement) : Prop :=
  ∃ s contents, body.find? (!·.isFiller) = some s ∧ s.Writes true contents

variable {body : List Statement} {s : Statement} {comma : Bool} {pieces : List String}
  {contents : List (List Char)} {doc : String}

theorem Statement.literals?_eq_some_iff :
    s.literals? = some pieces ↔ ∃ comma, s.ConsistsOf comma pieces := by
  constructor
  · intro h
    unfold Statement.literals? at h
    split at h
    · split at h
      · rename_i hsolid
        cases h
        exact ⟨_, .one hsolid⟩
      · rename_i hsolid
        cases h
        exact ⟨_, .several hsolid⟩
      · cases h
    · cases h
  · rintro ⟨comma, h⟩
    cases h with
    | one hsolid => simp [Statement.literals?, hsolid]
    | several hsolid => simp [Statement.literals?, hsolid]

/-- The literals of a statement in a source are whole. -/
theorem Statement.ConsistsOf.isLiteral (h : s.ConsistsOf comma pieces) (hwhole : s.Whole) :
    ∀ piece ∈ pieces.map String.toList, IsLiteral piece := by
  have hpart : ∀ {parts : List Part} {p : Part}, solid parts = [p] → (∀ p ∈ parts, p.Whole) →
      p.Whole := fun hsolid hparts =>
    hparts _ (List.mem_of_mem_filter (hsolid ▸ List.mem_singleton_self _ : _ ∈ solid _))
  rw [List.forall_mem_map]
  cases h with
  | one hsolid => exact List.forall_mem_singleton.2 (hpart hsolid hwhole)
  | several hsolid => exact hpart hsolid hwhole

/-! ## The first statement -/

/-- What discovery takes for the docstring. -/
theorem docstring?_eq_some_iff (h : WholeBlock body) :
    docstring? body = some doc ↔ ∃ s comma contents, body.find? (!·.isFiller) = some s ∧
      s.Writes comma contents ∧ doc = String.ofList (Docstring.clean contents.flatten) := by
  rw [docstring?_eq, docLiterals?, List.head?_filter]
  constructor
  · intro hdoc
    obtain ⟨text, htext, rfl⟩ := Option.map_eq_some_iff.1 hdoc
    obtain ⟨pieces, hpieces, htext⟩ := Option.bind_eq_some_iff.1 htext
    obtain ⟨s, hs, hpieces⟩ := Option.bind_eq_some_iff.1 hpieces
    obtain ⟨contents, hcontents, rfl⟩ := Option.map_eq_some_iff.1 htext
    obtain ⟨comma, hconsists⟩ := Statement.literals?_eq_some_iff.1 hpieces
    have hwhole := wholeBlock_iff.1 h s (List.mem_of_find?_eq_some hs)
    exact ⟨s, comma, contents, hs, ⟨pieces, hconsists,
      (mapM_literalValue?_eq_some_iff (hconsists.isLiteral hwhole)).1 hcontents⟩, rfl⟩
  · rintro ⟨s, comma, contents, hs, ⟨pieces, hconsists, hcontents⟩, rfl⟩
    have hwhole := wholeBlock_iff.1 h s (List.mem_of_find?_eq_some hs)
    have hvalues := (mapM_literalValue?_eq_some_iff (hconsists.isLiteral hwhole)).2 hcontents
    rw [hs, Option.bind_some, Statement.literals?_eq_some_iff.2 ⟨comma, hconsists⟩,
      Option.bind_some, Docstring.ofLiterals?, hvalues]
    rfl

/-- Discovery follows the rule unless the body starts with a tuple of literals. -/
theorem docstring?_documents_iff (h : WholeBlock body) :
    (∀ doc, docstring? body = some doc ↔ Documents body doc) ↔ ¬StartsWithTuple body := by
  constructor
  · rintro hrule ⟨s, contents, hs, hwrites⟩
    obtain ⟨s', contents', hs', ⟨pieces', hconsists', -⟩, -⟩ :=
      (hrule _).1 ((docstring?_eq_some_iff h).2 ⟨s, true, contents, hs, hwrites, rfl⟩)
    rw [hs] at hs'
    cases hs'
    obtain ⟨pieces, hconsists, -⟩ := hwrites
    cases hconsists <;> cases hconsists'
  · intro htuple doc
    rw [docstring?_eq_some_iff h]
    constructor
    · rintro ⟨s, comma, contents, hs, hwrites, rfl⟩
      cases comma with
      | true => exact absurd ⟨s, contents, hs, hwrites⟩ htuple
      | false => exact ⟨s, contents, hs, hwrites, rfl⟩
    · rintro ⟨s, contents, hs, hwrites, rfl⟩
      exact ⟨s, false, contents, hs, hwrites, rfl⟩

end Source

/-! ## Tests -/

/-- Docstrings of tests.  Every test has the docstring that the first statement of its
definition writes, also if a comma stands behind the literals; it is the docstring that the
rule gives, or none where the rule gives none, unless the body starts with a tuple of
literals. -/
theorem discover_docstrings {rules : NamingRules} {path source : String} {f : ParsedFile}
    (h : discover rules path source = .ok f) :
    ∃ statements, readSource source = .ok statements ∧ ∀ t ∈ f.tests,
      ∃ d ∈ definitions statements, d.IsTest rules ∧ t.site = d.site ∧
        (∀ doc, t.docstring = some doc ↔
          ∃ s comma contents, d.body.find? (!·.isFiller) = some s ∧ s.Writes comma contents ∧
            doc = String.ofList (Docstring.clean contents.flatten)) ∧
        ((∀ doc, t.docstring = some doc ↔ Documents d.body doc) ↔
          ¬StartsWithTuple d.body) := by
  obtain ⟨statements, hread, hdefinition⟩ := exists_definition h
  refine ⟨statements, hread, fun t ht => ?_⟩
  obtain ⟨d, hd, htest, rfl⟩ := hdefinition t ht
  have hwhole := (readSource_whole hread).of_definition d hd
  exact ⟨d, hd, htest, declaration_site d, fun _ => docstring?_eq_some_iff hwhole,
    docstring?_documents_iff hwhole⟩

/-- A test with the given statements as its body. -/
def soleTest (body : List Statement) : List Statement := [.function [] ⟨"test_a", false, 1⟩ body]

/-- The definition of that test. -/
def soleDefinition (body : List Statement) : Definition := ⟨[], [], ⟨"test_a", false, 1⟩, body⟩

theorem definitions_soleTest (s : SmallStatement) :
    definitions (soleTest [.small s]) = [soleDefinition [.small s]] := rfl

theorem discover_docstrings_adjacent :
    ∃ t contents, discover .standard "test_a.py" "def test_a():\n 'A' 'B'\n" =
        .ok ⟨"test_a.py", [t], []⟩ ∧ t.docstring = some "AB" ∧
      (Statement.small (.expressions [.item (.literals ["'A'", "'B'"] "'A' 'B'")] false)).Writes
        false contents ∧
      "AB" = String.ofList (Docstring.clean contents.flatten) := by
  have hread : readSource "def test_a():\n 'A' 'B'\n" =
      .ok (soleTest
        [.small (.expressions [.item (.literals ["'A'", "'B'"] "'A' 'B'")] false)]) := by
    decide +kernel
  have honly : ((readSource "def test_a():\n 'A' 'B'\n").toOption.map fun ss =>
      (testDeclarations .standard ss).map Declaration.docstring) = some [some "AB"] := by
    rw [hread]
    decide +kernel
  obtain ⟨t, ht, hdoc⟩ := exists_only_test honly "test_a.py"
  obtain ⟨statements, hread', htests⟩ := discover_docstrings ht
  rw [hread] at hread'
  cases hread'
  obtain ⟨d, hd, -, -, hdocstring, -⟩ := htests t (List.mem_singleton_self t)
  rw [definitions_soleTest, List.mem_singleton] at hd
  subst hd
  obtain ⟨s, comma, contents, hs, hwrites, hclean⟩ := (hdocstring "AB").1 hdoc
  cases hs
  obtain ⟨pieces, hconsists, -⟩ := id hwrites
  cases hconsists <;> exact ⟨t, contents, ht, hdoc, hwrites, hclean⟩

/-- A tuple is taken for a docstring. -/
theorem docstrings_misread :
    ∃ t s, discover .standard "test_a.py" "def test_a():\n 'A',\n" =
        .ok ⟨"test_a.py", [t], []⟩ ∧
      readSource "def test_a():\n 'A',\n" = .ok (soleTest [s]) ∧
      t.docstring = some "A" ∧ ¬Documents [s] "A" := by
  have hread : readSource "def test_a():\n 'A',\n" =
      .ok (soleTest [.small (.expressions [.item (.literal "'A'")] true)]) := by
    decide +kernel
  have honly : ((readSource "def test_a():\n 'A',\n").toOption.map fun ss =>
      (testDeclarations .standard ss).map Declaration.docstring) = some [some "A"] := by
    rw [hread]
    decide +kernel
  obtain ⟨t, ht, hdoc⟩ := exists_only_test honly "test_a.py"
  refine ⟨t, _, ht, hread, hdoc, ?_⟩
  rintro ⟨s, contents, hs, ⟨pieces, hconsists, -⟩, -⟩
  cases hs
  cases hconsists

end TestCensus
