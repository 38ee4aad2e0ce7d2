import TestCensus.Files.NameRule
import TestCensus.Settings.Validation

/-!
# The names of test files

By convention the name of a test file is its start, any text, a dot, and one of the
extensions (`NamedByConvention`).  The rule splits a name at its last dot, so the only
extensions that it ever finds are those without a dot (`isTestFileName_iff`).

A file that carries an extension with a dot inside is looked at by the last part of that
extension alone (`isTestFileName_carried`).  So the rule is the convention exactly if the last
part of each extension is an extension too (`nameRule_iff`).
-/

namespace TestCensus.Files

open TestCensus.Text

/-! ## Extensions -/

/-- The name is the start, any text, a dot, and one of the extensions. -/
def NamedByConvention (start : String) (extensions : List String) (name : String) : Prop :=
  ∃ middle, ∃ extension ∈ extensions, name = start ++ middle ++ "." ++ extension

/-- What stands behind the last dot of an extension, or all of it if there is none. -/
def lastPart (extension : String) : String :=
  match splitAtLast '.' extension.toList with
  | none => extension
  | some (_, after) => String.ofList after

theorem lastPart_of_not_mem {extension : String} (h : '.' ∉ extension.toList) :
    lastPart extension = extension := by
  rw [lastPart, splitAtLast_of_not_mem h]

/-- A name that carries an extension is split before the last part of the extension. -/
theorem splitAtLast_carried (before : List Char) (extension : String) :
    ∃ stem, splitAtLast '.' (before ++ '.' :: extension.toList) =
      some (stem, (lastPart extension).toList) ∧ before <+: stem := by
  unfold lastPart
  split
  · rename_i hnone
    exact ⟨before, splitAtLast_append (not_mem_of_splitAtLast_eq_none hnone) before,
      List.prefix_rfl⟩
  · rename_i first after hsome
    refine ⟨before ++ '.' :: first, ?_, List.prefix_append _ _⟩
    have hbehind := splitAtLast_append (not_mem_of_splitAtLast hsome) (before ++ '.' :: first)
    rw [String.toList_ofList, ← hbehind, List.append_assoc, List.cons_append,
      ← splitAtLast_eq_some hsome]

/-! ## The rule -/

variable {start : String} {extensions : List String} {name : String}

theorem toList_carried (start middle extension : String) :
    (start ++ middle ++ "." ++ extension).toList =
      (start.toList ++ middle.toList) ++ '.' :: extension.toList := by
  simp [String.toList_append]

/-- Of the extension that a file carries, the rule looks at the last part. -/
theorem isTestFileName_carried (middle extension : String) :
    isTestFileName start extensions (start ++ middle ++ "." ++ extension) = true ↔
      lastPart extension ∈ extensions := by
  obtain ⟨stem, hsplit, hstem⟩ :=
    splitAtLast_carried (start.toList ++ middle.toList) extension
  have hstart : startsWith start.toList stem = true :=
    List.isPrefixOf_iff_prefix.2 ((List.prefix_append _ _).trans hstem)
  rw [isTestFileName, toList_carried, hsplit]
  dsimp only
  rw [hstart, Bool.true_and, List.contains_iff_mem, String.ofList_toList]

/-- The rule finds the names that carry an extension without a dot. -/
theorem isTestFileName_iff : isTestFileName start extensions name = true ↔
    ∃ middle, ∃ extension ∈ extensions, '.' ∉ extension.toList ∧
      name = start ++ middle ++ "." ++ extension := by
  constructor
  · intro h
    unfold isTestFileName at h
    split at h
    · cases h
    · rename_i stem after hsplit
      rw [Bool.and_eq_true, List.contains_iff_mem] at h
      obtain ⟨hstart, hmem⟩ := h
      obtain ⟨middle, hstem⟩ := List.isPrefixOf_iff_prefix.1 hstart
      refine ⟨String.ofList middle, String.ofList after, hmem, ?_, String.toList_injective ?_⟩
      · rw [String.toList_ofList]
        exact not_mem_of_splitAtLast hsplit
      · rw [toList_carried, String.toList_ofList, String.toList_ofList, hstem]
        exact splitAtLast_eq_some hsplit
  · rintro ⟨middle, extension, hmem, hdot, rfl⟩
    rw [isTestFileName_carried, lastPart_of_not_mem hdot]
    exact hmem

/-- A file that is found has a name by convention. -/
theorem NamedByConvention.of_isTestFileName (h : isTestFileName start extensions name = true) :
    NamedByConvention start extensions name := by
  obtain ⟨middle, extension, hmem, -, rfl⟩ := isTestFileName_iff.1 h
  exact ⟨middle, extension, hmem, rfl⟩

/-- The rule is the convention exactly if the last part of each extension is an extension. -/
theorem isTestFileName_iff_namedByConvention :
    (∀ name, isTestFileName start extensions name = true ↔
      NamedByConvention start extensions name) ↔
    ∀ extension ∈ extensions, lastPart extension ∈ extensions := by
  constructor
  · intro h extension hmem
    have hnamed : NamedByConvention start extensions (start ++ "" ++ "." ++ extension) :=
      ⟨"", extension, hmem, rfl⟩
    exact (isTestFileName_carried "" extension).1 ((h _).2 hnamed)
  · intro h name
    refine ⟨NamedByConvention.of_isTestFileName, ?_⟩
    rintro ⟨middle, extension, hmem, rfl⟩
    exact (isTestFileName_carried middle extension).2 (h extension hmem)

/-! ## Configured extensions -/

/-- The extensions that hold are the configured ones without the dots before them. -/
theorem mem_effectiveExtensions {s : ScanSettings} {configured : List String}
    (h : s.extensions = some configured) {extension : String} (hmem : extension ∈ configured) :
    bareExtension extension ∈ s.effectiveExtensions := by
  rw [ScanSettings.effectiveExtensions, h]
  exact List.mem_map_of_mem hmem

/-- What the rule for names makes of a start and of extensions.

* It finds the names that carry an extension without a dot, and so no name that is not by
  convention.
* Of the extension that a file carries it looks at the last part only.
* It is the convention exactly if the last part of each extension is an extension.
* Whatever the settings are, valid or not, the files that carry a configured extension are
  found exactly if the last part of that extension is one of the extensions that hold. -/
theorem nameRule_iff (start : String) (extensions : List String) :
    (∀ name, isTestFileName start extensions name = true ↔
      ∃ middle, ∃ extension ∈ extensions, '.' ∉ extension.toList ∧
        name = start ++ middle ++ "." ++ extension) ∧
    (∀ middle extension, isTestFileName start extensions (start ++ middle ++ "." ++ extension) = true ↔
      lastPart extension ∈ extensions) ∧
    ((∀ name, isTestFileName start extensions name = true ↔
        NamedByConvention start extensions name) ↔
      ∀ extension ∈ extensions, lastPart extension ∈ extensions) ∧
    ∀ (s : Settings) (configured : List String), s.scan.extensions = some configured →
      ∀ extension ∈ configured, bareExtension extension ∈ s.scan.effectiveExtensions ∧
        ((∀ middle, isTestFileName s.scan.effectiveFileStart s.scan.effectiveExtensions
            (s.scan.effectiveFileStart ++ middle ++ "." ++ bareExtension extension) = true) ↔
          lastPart (bareExtension extension) ∈ s.scan.effectiveExtensions) := by
  refine ⟨fun name => isTestFileName_iff, isTestFileName_carried,
    isTestFileName_iff_namedByConvention, fun s configured hconfigured extension hmem =>
      ⟨mem_effectiveExtensions hconfigured hmem, ?_⟩⟩
  simp only [isTestFileName_carried, forall_const]

/-- Settings with an extension that has a dot inside. -/
def dottedSettings : Settings := { scan := { extensions := some [".spec.py"] } }

/-- The settings are valid, and a file that carries their only extension is named by convention,
but it is not found. -/
theorem dottedExtension_unmatched :
    dottedSettings.validated = .ok dottedSettings ∧
      dottedSettings.scan.effectiveExtensions = ["spec.py"] ∧
      NamedByConvention dottedSettings.scan.effectiveFileStart
        dottedSettings.scan.effectiveExtensions "test_a.spec.py" ∧
      isTestFileName dottedSettings.scan.effectiveFileStart
        dottedSettings.scan.effectiveExtensions "test_a.spec.py" = false := by
  have hextensions : dottedSettings.scan.effectiveExtensions = ["spec.py"] := by decide +kernel
  refine ⟨rfl, hextensions, ?_, by decide +kernel⟩
  rw [hextensions]
  exact ⟨"a", "spec.py", .head _, by decide +kernel⟩

end TestCensus.Files
