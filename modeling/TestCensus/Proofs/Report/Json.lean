import TestCensus.Proofs.Json.RoundTrip
import TestCensus.Proofs.Tally.Accounts
import TestCensus.Report.Contents
import TestCensus.Report.Json

/-!
# What the report in JSON says

A report in JSON is a JSON text, and its contents are those of the tally
(`json_faithful`).  Reading the text gives back the value that was written
(`Json.read_render`).  What is left is to look up the members of the objects in it, and
there is one lemma for each kind of object.

The numbers in different parts of a report agree, because the tally does.
-/

namespace TestCensus

/-! ## Kinds of values -/

namespace Json

theorem natural?_nat (n : Nat) : (Value.nat n).datum.natural? = some n :=
  congrArg some (Nat.mul_one n)

theorem tenths?_tenths (n : Nat) : (Value.tenths n).datum.tenths? = some n := rfl

theorem optional?_text (s : Option String) :
    (Value.ofOption .text s).datum.optional? Datum.text? = some s := by
  cases s with
  | none => rfl
  | some s => rfl

/-- A list is read if what it lists is. -/
theorem list?_ofList {f : α → Value} {kind : Datum → Option β} {g : α → β}
    (h : ∀ a, kind (f a).datum = some (g a)) (as : List α) :
    (Value.ofList f as).datum.list? kind = some (as.map g) := by
  have hdatum : (Value.ofList f as).datum = .array (as.map fun a => (f a).datum) := by
    rw [Value.ofList, Value.datum, Value.datums_eq_map, List.map_map]
    rfl
  have hkind : (kind ∘ fun a => (f a).datum) = fun a => (pure (g a) : Option β) := funext h
  rw [hdatum, Datum.list?, List.mapM_map, hkind, List.mapM_pure]
  rfl

theorem list?_messages (message : α → String) (as : List α) :
    (Value.ofList (fun a => .text (message a)) as).datum.list? Datum.text? =
      some (as.map message) := by
  have hkind : ∀ a, (Value.text (message a)).datum.text? = some (message a) := fun _ => rfl
  exact list?_ofList hkind as

theorem list?_texts (ss : List String) :
    (Value.ofList .text ss).datum.list? Datum.text? = some ss := by
  rw [list?_ofList (g := id) fun s => rfl, List.map_id]

/-- A table of numbers is read. -/
theorem table?_naturals (size : α → Nat) (entries : List (String × α)) :
    (Value.object (entries.map fun e => (e.1, .nat (size e.2)))).datum.table? Datum.natural? =
      some (entries.map fun e => (e.1, size e.2)) := by
  have hdatum : (Value.object (entries.map fun e => (e.1, .nat (size e.2)))).datum =
      .object (entries.map fun e => (e.1, (Value.nat (size e.2)).datum)) := by
    rw [Value.datum, Value.memberDatums_eq_map, List.map_map]
    rfl
  have hkind : ((fun m : String × Datum => m.2.natural?.map (m.1, ·)) ∘
      fun e : String × α => (e.1, (Value.nat (size e.2)).datum)) =
        fun e => (pure (e.1, size e.2) : Option (String × Nat)) := by
    funext e
    exact congrArg (Option.map (e.1, ·)) (natural?_nat (size e.2))
  rw [hdatum, Datum.table?, List.mapM_map, hkind, List.mapM_pure]
  rfl

end Json

/-! ## The names of counts -/

namespace CountTable

theorem put_names_eq (t : CountTable) (name : String) (count : Count) :
    (t.put name count).map Prod.fst = insertAscending name (t.map Prod.fst) := by
  induction t with
  | nil => rfl
  | cons e rest ih =>
      obtain ⟨first, c⟩ := e
      rw [put, List.map_cons, insertAscending]
      split
      · rfl
      · split
        · rename_i h
          rw [h]
          rfl
        · rw [List.map_cons, ih]

theorem putAll_ascending {t : CountTable} (ht : (t.map Prod.fst).Pairwise (· < ·))
    (entries : List (String × Count)) : ((t.putAll entries).map Prod.fst).Pairwise (· < ·) := by
  unfold putAll
  induction entries generalizing t with
  | nil => exact ht
  | cons e rest ih =>
      refine ih ?_
      rw [put_names_eq]
      exact insertAscending_pairwise ht

end CountTable

/-- Going through the functions of a suite keeps the names of the table. -/
theorem Accounts.foldl_enter_names (fs : List TestFunction) (a : Accounts) :
    (fs.foldl enter a).perCategory.map Prod.fst = a.perCategory.map Prod.fst := by
  induction fs generalizing a with
  | nil => rfl
  | cons f fs ih =>
      rw [List.foldl_cons, ih, enter]
      split
      · exact CountTable.raiseAll_names _ _ _
      · rfl

/-- The counts of a tally have different names, in ascending order. -/
theorem Tally.categoryCounts_ascending (t : Tally) :
    (t.categoryCounts.map Prod.fst).Pairwise (· < ·) := by
  have hopening : ((CountTable.ofNames Category.names fun _ => 0).map Prod.fst).Pairwise
      (· < ·) := CountTable.putAll_ascending .nil _
  unfold categoryCounts
  split
  · exact CountTable.putAll_ascending hopening _
  · rw [staticCounts, accounts, Accounts.ofFunctions, Accounts.foldl_enter_names]
    exact hopening

/-- The categorized amount is a part of the total. -/
theorem Tally.categorized_le_total (t : Tally) : t.categorized.val ≤ t.total.val := by
  have hsplit := t.exactInstances_split
  rw [t.categorized_val, t.total_val]
  omega

namespace Report

open TestCensus.Json

/-! ## Parts of a report -/

/-- What is reported of a function. -/
def ReportedFunction.ofFunction (f : TestFunction) : ReportedFunction :=
  { name := f.name, className := f.className, markers := f.markers.names, line := f.line,
    isAsync := f.isAsync, instances := f.instances.val }

/-- What is reported of a file. -/
def ReportedFile.ofFile (f : TestFile) : ReportedFile :=
  { path := f.path, total := f.total.val,
    functions := f.functions.map ReportedFunction.ofFunction }

/-- What is reported of a function without markers. -/
def ReportedGap.ofFunction (f : TestFunction) : ReportedGap :=
  { name := f.qualifiedName, file := f.file, line := f.line }

/-- What is reported of the numbers of a suite. -/
def ReportedSummary.ofTally (t : Tally) : ReportedSummary :=
  { totalTests := t.total.val, totalFiles := t.files.length, categorized := t.categorized.val,
    uncategorized := t.uncategorized.val,
    uncategorizedFunctions := t.uncategorizedFunctions.length,
    percentage := t.percentage.roundedTenths, countSource := t.countSource.name }

theorem ofDatum?_functionValue (f : TestFunction) :
    ReportedFunction.ofDatum? (functionValue f).datum = some (.ofFunction f) := by
  have hname : (functionValue f).datum.member? "name" = some (Value.text f.name).datum := rfl
  have hclass : (functionValue f).datum.member? "class" =
      some (Value.ofOption .text f.className).datum := rfl
  have hmarkers : (functionValue f).datum.member? "markers" =
      some (Value.ofList .text f.markers.names).datum := rfl
  have hline : (functionValue f).datum.member? "line" = some (Value.nat f.line).datum := rfl
  have hasync : (functionValue f).datum.member? "async" = some (Value.bool f.isAsync).datum := rfl
  have hinstances : (functionValue f).datum.member? "instance_count" =
      some (Value.nat f.instances.val).datum := rfl
  rw [ReportedFunction.ofDatum?, hname, hclass, hmarkers, hline, hasync, hinstances]
  simp only [Option.bind_eq_bind, Option.bind_some, optional?_text, list?_texts, natural?_nat]
  rfl

theorem ofDatum?_fileValue (f : TestFile) :
    ReportedFile.ofDatum? (fileValue f).datum = some (.ofFile f) := by
  have hpath : (fileValue f).datum.member? "path" = some (Value.text f.path).datum := rfl
  have htotal : (fileValue f).datum.member? "test_count" = some (Value.nat f.total.val).datum :=
    rfl
  have hfunctions : (fileValue f).datum.member? "functions" =
      some (Value.ofList functionValue f.functions).datum := rfl
  rw [ReportedFile.ofDatum?, hpath, htotal, hfunctions]
  simp only [Option.bind_eq_bind, Option.bind_some, natural?_nat,
    list?_ofList ofDatum?_functionValue]
  rfl

theorem ofDatum?_uncategorizedValue (f : TestFunction) :
    ReportedGap.ofDatum? (uncategorizedValue f).datum = some (.ofFunction f) := by
  have hname : (uncategorizedValue f).datum.member? "name" =
      some (Value.text f.qualifiedName).datum := rfl
  have hfile : (uncategorizedValue f).datum.member? "file" = some (Value.text f.file).datum := rfl
  have hline : (uncategorizedValue f).datum.member? "line" = some (Value.nat f.line).datum := rfl
  rw [ReportedGap.ofDatum?, hname, hfile, hline]
  simp only [Option.bind_eq_bind, Option.bind_some, natural?_nat]
  rfl

theorem ofDatum?_summaryValue (t : Tally) :
    ReportedSummary.ofDatum? (summaryValue t).datum = some (.ofTally t) := by
  have htests : (summaryValue t).datum.member? "total_tests" =
      some (Value.nat t.total.val).datum := rfl
  have hfiles : (summaryValue t).datum.member? "total_files" =
      some (Value.nat t.files.length).datum := rfl
  have hcategorized : (summaryValue t).datum.member? "categorized" =
      some (Value.nat t.categorized.val).datum := rfl
  have huncategorized : (summaryValue t).datum.member? "uncategorized" =
      some (Value.nat t.uncategorized.val).datum := rfl
  have hfunctions : (summaryValue t).datum.member? "uncategorized_functions" =
      some (Value.nat t.uncategorizedFunctions.length).datum := rfl
  have hpercentage : (summaryValue t).datum.member? "categorization_percentage" =
      some (Value.tenths t.percentage.roundedTenths).datum := rfl
  have hsource : (summaryValue t).datum.member? "category_count_source" =
      some (Value.text t.countSource.name).datum := rfl
  rw [ReportedSummary.ofDatum?, htests, hfiles, hcategorized, huncategorized, hfunctions,
    hpercentage, hsource]
  simp only [Option.bind_eq_bind, Option.bind_some, natural?_nat, tenths?_tenths]
  rfl

/-! ## The whole report -/

/-- What is reported of a tally. -/
def Contents.ofTally (t : Tally) : Contents :=
  { summary := .ofTally t
    categories := t.categoryCounts.map fun e => (e.1, e.2.val)
    files := t.files.map ReportedFile.ofFile
    issues := t.issues.map Issue.message
    warnings := t.warnings.map Warning.message
    gaps := t.uncategorizedFunctions.map ReportedGap.ofFunction }

theorem ofDatum?_jsonValue (t : Tally) :
    Contents.ofDatum? (jsonValue t).datum = some (.ofTally t) := by
  have hsummary : (jsonValue t).datum.member? "summary" = some (summaryValue t).datum := rfl
  have hcategories : (jsonValue t).datum.member? "categories" =
      some (Value.object (t.categoryCounts.map fun e => (e.1, .nat e.2.val))).datum := rfl
  have hfiles : (jsonValue t).datum.member? "files" =
      some (Value.ofList fileValue t.files).datum := rfl
  have hissues : (jsonValue t).datum.member? "issues" =
      some (Value.ofList (fun i => .text i.message) t.issues).datum := rfl
  have hwarnings : (jsonValue t).datum.member? "warnings" =
      some (Value.ofList (fun w => .text w.message) t.warnings).datum := rfl
  have hgaps : (jsonValue t).datum.member? "uncategorized_tests" =
      some (Value.ofList uncategorizedValue t.uncategorizedFunctions).datum := rfl
  rw [Contents.ofDatum?, hsummary, hcategories, hfiles, hissues, hwarnings, hgaps]
  simp only [Option.bind_eq_bind, Option.bind_some, ofDatum?_summaryValue,
    table?_naturals Count.val, list?_ofList ofDatum?_fileValue,
    list?_messages Issue.message, list?_messages Warning.message,
    list?_ofList ofDatum?_uncategorizedValue]
  rfl

/-- The contents of a report are those of a tally, and they agree with each other. -/
structure Contents.Faithful (c : Contents) (t : Tally) : Prop where
  /-- The files are reported in order, with their functions in order. -/
  files : c.files = t.files.map ReportedFile.ofFile
  /-- The markers of a function are in ascending order. -/
  markers : ∀ file ∈ c.files, ∀ f ∈ file.functions, f.markers.Pairwise (· < ·)
  /-- Every category is reported with its count. -/
  categories : c.categories = t.categoryCounts.map fun e => (e.1, e.2.val)
  /-- No category is reported twice. -/
  names : (c.categories.map Prod.fst).Pairwise (· < ·)
  /-- The issues are reported with their texts, in order. -/
  issues : c.issues = t.issues.map Issue.message
  /-- The warnings are reported with their texts, in order. -/
  warnings : c.warnings = t.warnings.map Warning.message
  /-- The functions without markers are those of the files, in order. -/
  gaps : c.gaps = ((t.files.flatMap TestFile.functions).filter (·.markers.isEmpty)).map
    ReportedGap.ofFunction
  /-- They are also those that the report itself shows without markers. -/
  gaps_reported : c.gaps.map (fun gap => (gap.name, gap.line)) =
    ((c.files.flatMap ReportedFile.functions).filter (·.markers.isEmpty)).map
      fun f => (f.qualifiedName, f.line)
  /-- The numbers of the whole suite are those of the tally. -/
  summary : c.summary = .ofTally t
  /-- The files are counted. -/
  totalFiles : c.summary.totalFiles = c.files.length
  /-- The functions without markers are counted. -/
  uncategorizedFunctions : c.summary.uncategorizedFunctions = c.gaps.length
  /-- The instances with and without markers share out all of them. -/
  totalTests : c.summary.totalTests = c.summary.categorized + c.summary.uncategorized

/-- The functions that are reported are those of the files. -/
theorem flatMap_ofFile (files : List TestFile) :
    (files.map ReportedFile.ofFile).flatMap ReportedFile.functions =
      (files.flatMap TestFile.functions).map ReportedFunction.ofFunction := by
  rw [List.flatMap_map, List.map_flatMap]
  rfl

theorem Contents.faithful_ofTally (t : Tally) : (Contents.ofTally t).Faithful t := by
  have hgaps : t.uncategorizedFunctions =
      (t.files.flatMap TestFile.functions).filter (·.markers.isEmpty) := by
    rw [t.uncategorizedFunctions_eq, Tally.functions]
    simp only [TestFunction.isCategorized, Bool.not_not]
  constructor
  case files => rfl
  case markers =>
    intro file hfile f hf
    obtain ⟨file', -, rfl⟩ := List.mem_map.1 hfile
    obtain ⟨f', -, rfl⟩ := List.mem_map.1 hf
    exact f'.markers.ascending
  case categories => rfl
  case names =>
    have hnames := t.categoryCounts_ascending
    rwa [ofTally, List.map_map]
  case issues => rfl
  case warnings => rfl
  case gaps => rw [ofTally, hgaps]
  case gaps_reported =>
    rw [ofTally, hgaps, flatMap_ofFile, List.filter_map, List.map_map, List.map_map]
    rfl
  case summary => rfl
  case totalFiles => exact (List.length_map _).symm
  case uncategorizedFunctions => exact (List.length_map _).symm
  case totalTests => exact (Nat.add_sub_cancel' t.categorized_le_total).symm

/-- The report in JSON is a JSON text, whatever the tally is, and what can be read from
it is what the tally says. -/
theorem json_faithful (t : Tally) :
    ∃ d c, Json.read (json t).toList = some d ∧ Contents.ofDatum? d = some c ∧ c.Faithful t :=
  ⟨(jsonValue t).datum, .ofTally t, read_render (jsonValue t), ofDatum?_jsonValue t,
    Contents.faithful_ofTally t⟩

end Report

end TestCensus
