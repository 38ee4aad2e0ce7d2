/-!
# The taxonomy of test categories

A test belongs to a category when a marker names the category.  The taxonomy is
a fixed list of eight categories in display order, and no two of them share a
name (`names_nodup`).  The name patterns say where tests of a category usually
live; they are shown and never matched.
-/

namespace TestCensus

/-- One recognized test category. -/
structure Category where
  /-- The name a marker uses. -/
  name : String
  /-- One line that says what belongs here. -/
  description : String
  /-- Where tests of this category usually live. -/
  namePatterns : List String
  /-- The glyph shown before the name. -/
  glyph : String
deriving DecidableEq, Repr

namespace Category

/-- The taxonomy, in display order. -/
def all : List Category :=
  [ ⟨"unit", "Fast, isolated tests of a single function or class",
      ["tests/unit/**", "test_*_unit.py"], "🧪"⟩,
    ⟨"integration", "Tests exercising several components or real backing services together",
      ["tests/integration/**", "test_*_integration.py"], "🔗"⟩,
    ⟨"e2e", "End-to-end tests driving the system through its public interface",
      ["tests/e2e/**", "test_*_e2e.py"], "🌐"⟩,
    ⟨"performance", "Benchmarks and load or latency assertions",
      ["tests/performance/**", "test_*_perf.py", "test_*_benchmark.py"], "⚡"⟩,
    ⟨"security", "Authentication, authorization and input-hardening checks",
      ["tests/security/**", "test_*_security.py"], "🔒"⟩,
    ⟨"smoke", "Minimal health checks run first to reject broken builds",
      ["tests/smoke/**", "test_smoke_*.py"], "💨"⟩,
    ⟨"regression", "Tests pinning previously fixed bugs",
      ["tests/regression/**", "test_*_regression.py", "test_issue_*.py"], "🔁"⟩,
    ⟨"slow", "Long-running tests excluded from quick local runs",
      ["tests/slow/**", "test_*_slow.py"], "🐢"⟩ ]

/-- The category of a name, compared exactly. -/
def named? (name : String) : Option Category := all.find? (·.name == name)

/-- The names of the taxonomy, in display order. -/
def names : List String := all.map Category.name

/-- The name belongs to the taxonomy. -/
def isKnown (name : String) : Bool := (named? name).isSome

theorem names_nodup : names.Nodup := by decide

theorem named?_eq_some {name : String} {c : Category} (h : named? name = some c) :
    c ∈ all ∧ c.name = name :=
  ⟨List.mem_of_find?_eq_some h, by simpa using List.find?_some h⟩

theorem isKnown_iff {name : String} : isKnown name = true ↔ name ∈ names := by
  unfold isKnown named? names
  rw [List.find?_isSome]
  simp only [List.mem_map, beq_iff_eq]

end Category

end TestCensus
