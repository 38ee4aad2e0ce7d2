import TestCensus.Proofs.Toml.Documents
import TestCensus.Settings.Text

/-!
# Written settings are read back

Settings that can be written at all are read back as they were
(`Settings.toText_readable`).  A setting of each kind is written as an entry and read
back as its value (`Entry`), a section of settings consists of entries, and a document
of sections.  What reading a section looks up is then what was written under that
name, and nothing if nothing was.

A setting that is absent has no entry.  A list that is empty has one, so the two are
told apart.
-/

namespace TestCensus

open TestCensus.Toml

/-! ## Kinds of settings -/

/-- A setting as it is written, with its name and the value that is read, if it is
there. -/
abbrev Entry := List Char × String × Option Value

/-- An entry is read as an assignment of its value. -/
def Entry.IsReadable (e : Entry) : Prop := Lists e.1 ((present [e.2]).map assignment)

/-- The entry of a setting. -/
def entry (name : String) (write : α → List Char) (toValue : α → Value) (a : Option α) : Entry :=
  (entryOf name write a, name, a.map toValue)

theorem entry_isReadable {name : String} (hname : isBareKey name = true) {write : α → List Char}
    {toValue : α → Value} {a : Option α} (h : ∀ x ∈ a, IsWritten (write x) (toValue x)) :
    (entry name write toValue a).IsReadable := by
  cases a with
  | none => exact .nil
  | some x => exact lists_entry hname (h x rfl)

/-- A list of texts as a value. -/
def textsValue (ss : List String) : Value := .array (ss.map .text)

/-- A number as a value. -/
def naturalValue (n : Nat) : Value := .integer n

theorem isWritten_string (s : String) : IsWritten (writtenString s) (.text s) := by
  obtain ⟨q, tail, hq, htail⟩ := exists_writtenText s.toList
  constructor
  · intro rest
    rw [writtenString, htail, List.cons_append]
    refine skipSpaces_of_not_space ?_ _
    rcases hq with rfl | rfl
    · rfl
    · rfl
  · intro rest
    have hread := value_text depthLimit (x := '\n') (by decide) (by decide) s.toList rest
    rwa [String.ofList_toList] at hread

theorem isWritten_list (ss : List String) : IsWritten (writtenList ss) (textsValue ss) := by
  constructor
  · intro rest
    match ss with
    | [] => rfl
    | [s] => rfl
    | s :: s' :: ss => rfl
  · intro rest
    exact value_list 78 ss ('\n' :: rest)

theorem isWritten_boolean (b : Bool) : IsWritten (writtenBoolean b) (.boolean b) := by
  cases b with
  | false => exact ⟨fun rest => rfl, fun rest => rfl⟩
  | true => exact ⟨fun rest => rfl, fun rest => rfl⟩

theorem isWritten_natural {n : Nat} (hn : n ≤ maxInteger) :
    IsWritten (toString n).toList (naturalValue n) := by
  constructor
  · intro rest
    have h := Text.isNumeral_toString n
    obtain ⟨d, ds, hds, -⟩ := h.leading
    have hd := h.decimal d (hds ▸ List.mem_cons_self)
    rw [hds, List.cons_append]
    refine skipSpaces_of_not_space ?_ _
    simp [isSpace, Text.ne_of_isDigit hd (show ' '.isDigit = false by decide),
      Text.ne_of_isDigit hd (show '\t'.isDigit = false by decide)]
  · exact value_number depthLimit hn

section Kinds

variable {name : String}

theorem list_isReadable (hname : isBareKey name = true) (ss : Option (List String)) :
    (entry name writtenList textsValue ss).IsReadable :=
  entry_isReadable hname fun ss _ => isWritten_list ss

theorem string_isReadable (hname : isBareKey name = true) (s : Option String) :
    (entry name writtenString .text s).IsReadable :=
  entry_isReadable hname fun s _ => isWritten_string s

theorem boolean_isReadable (hname : isBareKey name = true) (b : Option Bool) :
    (entry name writtenBoolean .boolean b).IsReadable :=
  entry_isReadable hname fun b _ => isWritten_boolean b

theorem natural_isReadable (hname : isBareKey name = true) {n : Option Nat}
    (h : ∀ m ∈ n, m ≤ maxInteger) :
    (entry name (fun n => (toString n).toList) naturalValue n).IsReadable :=
  entry_isReadable hname fun m hm => isWritten_natural (h m hm)

end Kinds

theorem texts?_textsValue (ss : List String) : (textsValue ss).texts? = some ss := by
  have hkind : Value.text? ∘ Value.text = fun s => (pure s : Option String) := rfl
  rw [textsValue, Value.texts?, List.mapM_map, hkind, List.mapM_pure, List.map_id']
  rfl

theorem natural?_naturalValue (n : Nat) : (naturalValue n).natural? = some n := by
  rw [naturalValue, Value.natural?, if_pos (Int.natCast_nonneg n), Int.toNat_natCast]

/-! ## Sections -/

/-- The values of entries by their names. -/
def valuesOf (entries : List Entry) : Table := present (entries.map Prod.snd)

theorem lists_entries {entries : List Entry} (h : ∀ e ∈ entries, e.IsReadable) :
    Lists (entries.map Prod.fst).flatten ((valuesOf entries).map assignment) := by
  induction entries with
  | nil => exact .nil
  | cons e entries ih =>
      rw [List.forall_mem_cons] at h
      have hlines : (valuesOf (e :: entries)).map assignment =
          (present [e.2]).map assignment ++ (valuesOf entries).map assignment := by
        rw [← List.map_append, valuesOf, valuesOf, present, present, present,
          ← List.filterMap_append]
        rfl
      rw [hlines]
      exact h.1.append (ih h.2)

/-- A section whose entries are read is read. -/
theorem lists_section (name : String) (hname : isBareKey name = true) {entries : List Entry}
    (h : ∀ e ∈ entries, e.IsReadable) :
    Lists (writtenSection name (entries.map Prod.fst))
      (Section.lines ⟨name, entries.map Prod.snd⟩) :=
  (lists_header hname).append (lists_entries h)

/-- A setting that was written under a name is found under it. -/
theorem setting?_lookup {entries : List Entry} (hnames : (entries.map (·.2.1)).Nodup)
    (i : Nat) {name : String} {write : α → List Char} {toValue : α → Value} {a : Option α}
    (hentry : entries[i]? = some (entry name write toValue a)) {kind : Value → Option α}
    (hkind : ∀ x, kind (toValue x) = some x) :
    setting? kind ((valuesOf entries).lookup name) = some a := by
  have hlookup : (valuesOf entries).lookup name = a.map toValue := by
    refine lookup_present ?_ (List.mem_map.2 ⟨_, List.mem_of_getElem? hentry, rfl⟩)
    rwa [List.map_map]
  rw [hlookup]
  cases a with
  | none => rfl
  | some x => exact congrArg (Option.map some) (hkind x)

/-- The number of a setting, if it is there, is one that TOML has. -/
def FitsNatural (n : Option Nat) : Prop := ∀ m ∈ n, m ≤ maxInteger

theorem naturalEntry?_of_fits {n : Option Nat} (h : FitsNatural n) (name : String) :
    naturalEntry? name n = some (entryOf name (fun n => (toString n).toList) n) := by
  cases n with
  | none => rfl
  | some m =>
      rw [ naturalEntry?, writtenNatural?, if_pos (h m rfl)]
      rfl

theorem naturalEntry?_of_not_fits {n : Option Nat} (h : ¬FitsNatural n) (name : String) :
    naturalEntry? name n = none := by
  cases n with
  | none => exact absurd nofun h
  | some m =>
      have hm : ¬m ≤ maxInteger := by
        intro hm
        refine h fun m' hm' => ?_
        cases hm'
        exact hm
      rw [ naturalEntry?, writtenNatural?, if_neg hm]
      rfl

namespace ScanSettings

/-- The entries of the settings that say where the test files are. -/
def entries (s : ScanSettings) : List Entry :=
  [ entry "test_dirs" writtenList textsValue s.testDirs,
    entry "file_prefix" writtenString .text s.fileStart,
    entry "extensions" writtenList textsValue s.extensions,
    entry "respect_gitignore" writtenBoolean .boolean s.respectIgnoreFiles,
    entry "exclude" writtenList textsValue (some s.exclude),
    entry "threads" (fun n => (toString n).toList) naturalValue s.threads ]

variable (s : ScanSettings)

theorem names_nodup : (s.entries.map (·.2.1)).Nodup := by
  show ["test_dirs", "file_prefix", "extensions", "respect_gitignore", "exclude",
    "threads"].Nodup
  decide

theorem ofFields?_entries :
    ofFields? (fun _ name => (valuesOf s.entries).lookup name) = some s := by
  rw [ofFields?, setting?_lookup s.names_nodup 0 rfl texts?_textsValue,
    setting?_lookup s.names_nodup 1 rfl fun _ => rfl,
    setting?_lookup s.names_nodup 2 rfl texts?_textsValue,
    setting?_lookup s.names_nodup 3 rfl fun _ => rfl,
    setting?_lookup s.names_nodup 4 rfl texts?_textsValue,
    setting?_lookup s.names_nodup 5 rfl natural?_naturalValue]
  rfl

theorem entries_isReadable (h : FitsNatural s.threads) : ∀ e ∈ s.entries, e.IsReadable := by
  rw [entries, List.forall_mem_cons, List.forall_mem_cons, List.forall_mem_cons,
    List.forall_mem_cons, List.forall_mem_cons, List.forall_mem_singleton]
  exact ⟨list_isReadable (by decide +kernel) _, string_isReadable (by decide +kernel) _,
    list_isReadable (by decide +kernel) _, boolean_isReadable (by decide +kernel) _,
    list_isReadable (by decide +kernel) _, natural_isReadable (by decide +kernel) h⟩

end ScanSettings

namespace NamingSettings

/-- The entries of the settings that say by which names tests are recognized. -/
def entries (s : NamingSettings) : List Entry :=
  [ entry "function_prefix" writtenString .text s.functionStart,
    entry "class_prefix" writtenString .text s.classStart,
    entry "class_marker" writtenString .text s.classMarker,
    entry "mark_namespace" writtenString .text s.markModule ]

variable (s : NamingSettings)

theorem names_nodup : (s.entries.map (·.2.1)).Nodup := by
  show ["function_prefix", "class_prefix", "class_marker", "mark_namespace"].Nodup
  decide

theorem ofFields?_entries :
    ofFields? (fun _ name => (valuesOf s.entries).lookup name) = some s := by
  rw [ofFields?, setting?_lookup s.names_nodup 0 rfl fun _ => rfl,
    setting?_lookup s.names_nodup 1 rfl fun _ => rfl,
    setting?_lookup s.names_nodup 2 rfl fun _ => rfl,
    setting?_lookup s.names_nodup 3 rfl fun _ => rfl]
  rfl

theorem entries_isReadable : ∀ e ∈ s.entries, e.IsReadable := by
  rw [entries, List.forall_mem_cons, List.forall_mem_cons, List.forall_mem_cons,
    List.forall_mem_singleton]
  exact ⟨string_isReadable (by decide +kernel) _, string_isReadable (by decide +kernel) _,
    string_isReadable (by decide +kernel) _, string_isReadable (by decide +kernel) _⟩

end NamingSettings

namespace CollectSettings

/-- The entries of the settings that say how the collector is asked. -/
def entries (s : CollectSettings) : List Entry :=
  [ entry "enabled" writtenBoolean .boolean s.enabled,
    entry "command" writtenList textsValue s.command,
    entry "extra_args" writtenList textsValue (some s.extraArguments),
    entry "timeout_secs" (fun n => (toString n).toList) naturalValue s.timeout ]

variable (s : CollectSettings)

theorem names_nodup : (s.entries.map (·.2.1)).Nodup := by
  show ["enabled", "command", "extra_args", "timeout_secs"].Nodup
  decide

theorem ofFields?_entries :
    ofFields? (fun _ name => (valuesOf s.entries).lookup name) = some s := by
  rw [ofFields?, setting?_lookup s.names_nodup 0 rfl fun _ => rfl,
    setting?_lookup s.names_nodup 1 rfl texts?_textsValue,
    setting?_lookup s.names_nodup 2 rfl texts?_textsValue,
    setting?_lookup s.names_nodup 3 rfl natural?_naturalValue]
  rfl

theorem entries_isReadable (h : FitsNatural s.timeout) : ∀ e ∈ s.entries, e.IsReadable := by
  rw [entries, List.forall_mem_cons, List.forall_mem_cons, List.forall_mem_cons,
    List.forall_mem_singleton]
  exact ⟨boolean_isReadable (by decide +kernel) _, list_isReadable (by decide +kernel) _,
    list_isReadable (by decide +kernel) _, natural_isReadable (by decide +kernel) h⟩

end CollectSettings

namespace ReportSettings

/-- The entry of the setting that says how a suite is rated. -/
def entries (s : ReportSettings) : List Entry :=
  [entry "good_threshold" (fun n => (toString n).toList) naturalValue s.goodThreshold]

variable (s : ReportSettings)

theorem names_nodup : (s.entries.map (·.2.1)).Nodup := by
  show ["good_threshold"].Nodup
  decide

theorem ofFields?_entries :
    ofFields? (fun _ name => (valuesOf s.entries).lookup name) = some s := by
  rw [ofFields?, setting?_lookup s.names_nodup 0 rfl natural?_naturalValue]
  rfl

theorem entries_isReadable (h : FitsNatural s.goodThreshold) :
    ∀ e ∈ s.entries, e.IsReadable := by
  rw [entries, List.forall_mem_singleton]
  exact natural_isReadable (by decide +kernel) h

end ReportSettings

/-! ## Settings -/

namespace Settings

/-- Every number of the settings is one that TOML has. -/
structure Fits (s : Settings) : Prop where
  /-- The number of workers. -/
  threads : FitsNatural s.scan.threads
  /-- The seconds that a query may take. -/
  timeout : FitsNatural s.collect.timeout
  /-- The number of functions without markers that are few. -/
  goodThreshold : FitsNatural s.report.goodThreshold

variable (s : Settings)

/-- The sections of settings. -/
def sections : List Section :=
  [ ⟨"scan", s.scan.entries.map Prod.snd⟩, ⟨"parser", s.naming.entries.map Prod.snd⟩,
    ⟨"oracle", s.collect.entries.map Prod.snd⟩, ⟨"report", s.report.entries.map Prod.snd⟩ ]

/-- The document of settings that can be written. -/
def document : List Char :=
  writtenSection "scan" (s.scan.entries.map Prod.fst) ++ ['\n'] ++
    writtenSection "parser" (s.naming.entries.map Prod.fst) ++ ['\n'] ++
    writtenSection "oracle" (s.collect.entries.map Prod.fst) ++ ['\n'] ++
    writtenSection "report" (s.report.entries.map Prod.fst)

variable {s}

theorem written?_of_fits (h : s.Fits) : s.written? = some s.document := by
  rw [written?, scanSection?, collectSection?, reportSection?, naturalEntry?_of_fits h.threads,
    naturalEntry?_of_fits h.timeout, naturalEntry?_of_fits h.goodThreshold]
  rfl

theorem written?_of_not_fits (h : ¬s.Fits) : s.written? = none := by
  rw [written?, scanSection?, collectSection?, reportSection?]
  by_cases hthreads : FitsNatural s.scan.threads
  · rw [naturalEntry?_of_fits hthreads]
    by_cases htimeout : FitsNatural s.collect.timeout
    · have hthreshold : ¬FitsNatural s.report.goodThreshold :=
        fun hthreshold => h ⟨hthreads, htimeout, hthreshold⟩
      rw [naturalEntry?_of_fits htimeout, naturalEntry?_of_not_fits hthreshold]
      rfl
    · rw [naturalEntry?_of_not_fits htimeout]
      rfl
  · rw [naturalEntry?_of_not_fits hthreads]
    rfl

theorem lists_document (h : s.Fits) : Lists s.document (s.sections.flatMap Section.lines) := by
  have hscan := lists_section "scan" (by decide +kernel)
    (s.scan.entries_isReadable h.threads)
  have hnaming := lists_section "parser" (by decide +kernel)
    s.naming.entries_isReadable
  have hcollect := lists_section "oracle" (by decide +kernel)
    (s.collect.entries_isReadable h.timeout)
  have hreport := lists_section "report" (by decide +kernel)
    (s.report.entries_isReadable h.goodThreshold)
  have hlines := hscan.append (lists_blank.append (hnaming.append (lists_blank.append
    (hcollect.append (lists_blank.append hreport)))))
  simpa [sections, document] using hlines

theorem names_sections (s : Settings) : (s.sections.map Section.name).Nodup := by
  show ["scan", "parser", "oracle", "report"].Nodup
  decide

theorem sections_isProper (s : Settings) : ∀ part ∈ s.sections, part.IsProper := by
  rw [sections, List.forall_mem_cons, List.forall_mem_cons, List.forall_mem_cons,
    List.forall_mem_singleton]
  simp only [Section.IsProper, List.map_map]
  exact ⟨s.scan.names_nodup, s.naming.names_nodup, s.collect.names_nodup, s.report.names_nodup⟩

/-- The table of a document gives the settings. -/
theorem ofTable?_sections (s : Settings) : ofTable? (s.sections.map Section.entry) = some s := by
  have hscan : ofSection ScanSettings.ofFields? {}
      ((s.sections.map Section.entry).lookup "scan") = some s.scan :=
    s.scan.ofFields?_entries
  have hnaming : ofSection NamingSettings.ofFields? {}
      ((s.sections.map Section.entry).lookup "parser") = some s.naming :=
    s.naming.ofFields?_entries
  have hcollect : ofSection CollectSettings.ofFields? {}
      ((s.sections.map Section.entry).lookup "oracle") = some s.collect :=
    s.collect.ofFields?_entries
  have hreport : ofSection ReportSettings.ofFields? {}
      ((s.sections.map Section.entry).lookup "report") = some s.report :=
    s.report.ofFields?_entries
  rw [ofTable?, hscan, hnaming, hcollect, hreport]
  rfl

theorem read_document (h : s.Fits) :
    Toml.read s.document = some (s.sections.map Section.entry) :=
  read_sections s.sections_isProper s.names_sections rfl (lists_document h)

/-- Settings can be written exactly if TOML has their numbers, and then reading the text
gives them back, whatever characters are in them and whichever settings are absent.
Otherwise there is no text, and the failure says so. -/
theorem toText_readable (s : Settings) :
    (s.Fits ↔ ∃ text, s.toText = .ok text ∧ ∀ path, ofText path text = .ok s) ∧
      (¬s.Fits ↔ ∃ message, s.toText = .error (.parse "<serialization>" message)) := by
  by_cases h : s.Fits
  · have htext : s.toText = .ok (String.ofList s.document) := by
      rw [toText, written?_of_fits h]
    have hread : ∀ path, ofText path (String.ofList s.document) = .ok s := by
      intro path
      rw [ofText, String.toList_ofList, read_document h]
      dsimp only
      rw [ofTable?_sections]
    refine ⟨iff_of_true h ⟨_, htext, hread⟩, iff_of_false (not_not_intro h) ?_⟩
    rintro ⟨message, hmessage⟩
    cases htext.symm.trans hmessage
  · have htext : s.toText =
        .error (.parse "<serialization>" "a number does not fit a TOML integer") := by
      rw [toText, written?_of_not_fits h]
    refine ⟨iff_of_false h ?_, iff_of_true h ⟨_, htext⟩⟩
    rintro ⟨text, htext', -⟩
    cases htext.symm.trans htext'

end Settings

end TestCensus
