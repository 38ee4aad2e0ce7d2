import TestCensus.Census.FileRecord

/-!
# What the record of a file tells

The record of a file follows from how the file is reported and from what reading it
gives (`FileRecord.Tells`).  A file that cannot be read, or whose source cannot, has no
functions and one warning.  Any other file has the functions that were discovered,
each with at least one instance, and a warning for each redeclaration.
-/

namespace TestCensus

open TestCensus.Files

/-! ## Instances -/

theorem one_le_foldl_mul {counts : List Count} (h : ∀ c ∈ counts, 1 ≤ c.val) {start : Count}
    (hstart : 1 ≤ start.val) : 1 ≤ (counts.foldl Count.mul start).val := by
  induction counts generalizing start with
  | nil => exact hstart
  | cons c rest ih =>
      refine ih (fun x hx => h x (.tail _ hx)) ?_
      show 1 ≤ min (start.val * c.val) Count.limit
      exact Nat.le_min.2 ⟨Nat.mul_pos hstart (h c (.head _)), by decide⟩

theorem Decoration.one_le_factor (a : Decoration) : 1 ≤ a.factor.val := by
  unfold factor
  split
  · show 1 ≤ min (max 1 _) Count.limit
    exact Nat.le_min.2 ⟨Nat.le_max_left _ _, by decide⟩
  · exact Nat.le_refl _

/-- A test expands into at least one instance. -/
theorem Decoration.one_le_instances (markModule : String) (decorators : List Decoration) :
    1 ≤ (instances markModule decorators).val := by
  refine one_le_foldl_mul (fun c hc => ?_) (Nat.le_refl _)
  obtain ⟨a, -, rfl⟩ := List.mem_map.1 hc
  exact a.one_le_factor

/-! ## Records -/

namespace FileRecord

/-- What a record tells of a file that is reported as `shown`, given what reading it at
a path gives. -/
structure Tells (rules : NamingRules) (shown : String) (path : Path)
    (reading : Except PathError String) (r : FileRecord) : Prop where
  /-- The entry is that of the file. -/
  file_path : r.file.path = shown
  /-- A file that cannot be read has no functions and one warning. -/
  unreadable : ∀ e, reading = .error e → r.file.functions = [] ∧
    r.warnings = [.parseFailure shown (path.text ++ " is unreadable: " ++ e.message)]
  /-- A file whose source cannot be read has no functions and one warning. -/
  malformed : ∀ source failure, reading = .ok source → Source.readSource source = .error failure →
    r.file.functions = [] ∧
      r.warnings = [.parseFailure shown (FileFailure.malformed shown failure).message]
  /-- Any other file has the functions that were discovered and a warning for each
  redeclaration. -/
  parsed : ∀ source statements, reading = .ok source → Source.readSource source = .ok statements →
    r.file.functions = (discoverIn rules shown statements).tests.map
        (Declaration.testFunction rules.markModule shown) ∧
      r.warnings = (discoverIn rules shown statements).redeclared.map (fun d =>
        .redeclaration shown d.qualifiedName d.line d.firstLine) ∧
      ∀ path' detail, .parseFailure path' detail ∉ r.warnings
  /-- A function belongs to the file and has at least one instance. -/
  functions : ∀ f ∈ r.file.functions, f.file = shown ∧ 1 ≤ f.instances.val

variable {rules : NamingRules} {shown source : String}

theorem ofSource_malformed {failure : Source.SyntaxFailure}
    (h : Source.readSource source = .error failure) :
    ofSource rules shown source = ofFailure shown (.malformed shown failure) := by
  delta ofSource discover
  rw [h]
  rfl

theorem ofSource_parsed {statements : List Source.Statement}
    (h : Source.readSource source = .ok statements) :
    ofSource rules shown source = ofParsed rules (discoverIn rules shown statements) := by
  delta ofSource discover
  rw [h]
  rfl

/-- The record of a file tells what it should, whatever reading the file gives. -/
theorem ofReading_tells (rules : NamingRules) (shown : String) (path : Path)
    (reading : Except PathError String) :
    (ofReading rules shown path reading).Tells rules shown path reading := by
  cases reading with
  | error e =>
      exact
        { file_path := rfl
          unreadable := by
            rintro e' ⟨⟩
            exact ⟨rfl, rfl⟩
          malformed := nofun
          parsed := nofun
          functions := nofun }
  | ok source =>
      cases hread : Source.readSource source with
      | error failure =>
          rw [ofReading, ofSource_malformed hread]
          exact
            { file_path := rfl
              unreadable := nofun
              malformed := by
                rintro source' failure' ⟨⟩ hfailure
                cases hread.symm.trans hfailure
                exact ⟨rfl, rfl⟩
              parsed := by
                rintro source' statements ⟨⟩ hstatements
                cases hread.symm.trans hstatements
              functions := nofun }
      | ok statements =>
          rw [ofReading, ofSource_parsed hread]
          exact
            { file_path := rfl
              unreadable := nofun
              malformed := by
                rintro source' failure ⟨⟩ hfailure
                cases hread.symm.trans hfailure
              parsed := by
                rintro source' statements' ⟨⟩ hstatements
                cases hread.symm.trans hstatements
                refine ⟨rfl, rfl, fun path' detail hmem => ?_⟩
                obtain ⟨d, -, hd⟩ := List.mem_map.1 hmem
                cases hd
              functions := by
                intro f hf
                obtain ⟨d, -, rfl⟩ := List.mem_map.1 hf
                exact ⟨rfl, Decoration.one_le_instances _ _⟩ }

/-- Readings that agree give the same entry, and if they are text or were made at one
path, the same warnings. -/
theorem ofReading_congr (rules : NamingRules) (shown : String) {path path' : Path}
    (reading : Except PathError String) :
    (ofReading rules shown path' reading).file = (ofReading rules shown path reading).file ∧
      (path'.text = path.text ∨ (∃ source, reading = .ok source) →
        (ofReading rules shown path' reading).warnings =
          (ofReading rules shown path reading).warnings) := by
  cases reading with
  | ok source => exact ⟨rfl, fun _ => rfl⟩
  | error e =>
      refine ⟨rfl, ?_⟩
      rintro (hsame | ⟨source, hsource⟩)
      · rw [ofReading, ofReading, hsame]
      · cases hsource

end FileRecord

end TestCensus
