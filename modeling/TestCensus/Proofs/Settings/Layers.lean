import TestCensus.Settings.Layers

/-!
# The layer that a setting comes from

Every field of the settings of a project has a list of layers that can set it, and
its value is the one of the highest layer that does (`topmost`, `FromLayers`).  So a
field depends on that field of each layer and on nothing else.

Loading looks at the layers in order.  With a file that can be read, the first
variable without a value of its kind is the failure, whatever the caller sets.
Without such a variable the failure is the first problem of the settings that the
layers give together, and settings without a problem are the result
(`Settings.load_layered`).
-/

namespace TestCensus

open TestCensus.Files TestCensus.Text

/-! ## The layers -/

/-- The value of the first layer that sets one. -/
def topmost (layers : List (Option α)) : Option α := layers.findSome? id

@[simp] theorem topmost_nil : topmost ([] : List (Option α)) = none := rfl

@[simp] theorem topmost_cons (a : Option α) (rest : List (Option α)) :
    topmost (a :: rest) = (a <|> topmost rest) := by
  cases a with
  | none => rfl
  | some a => rfl

/-- What the file of a project sets.  A file that is named has to be there. -/
inductive FileLayer (t : Tree) (root : Path) (named : Option Path) : Option Settings → Prop where
  /-- No file is named, and the root holds none. -/
  | absent (hnamed : named = none) (hfile : t.has (root.join settingsFileName) = false) :
      FileLayer t root named none
  /-- The file can be read, and its text is that of settings. -/
  | present {p : Path} {text : String} {s : Settings}
      (hp : p = named.getD (root.join settingsFileName)) (hfile : t.has p = true)
      (htext : t.readText p = .ok text) (hsettings : Settings.ofText p.text text = .ok s) :
      FileLayer t root named (some s)

/-- What a variable sets. -/
inductive Sets (read : String → Except String α) : Option String → Option α → Prop where
  /-- The variable is not there. -/
  | unset : Sets read none none
  /-- The variable holds a value of its kind. -/
  | value {text : String} {a : α} (h : read text = .ok a) : Sets read (some text) (some a)

/-- What the variables of an environment set. -/
structure Variables.Set (e : Variables) (v : VariableValues) : Prop where
  /-- The number of workers. -/
  threads : Sets readNaturalText e.threads v.threads
  /-- The collector is asked at all. -/
  collectEnabled : Sets readBooleanText e.collectEnabled v.collectEnabled
  /-- The seconds that a query may take. -/
  collectTimeout : Sets readNaturalText e.collectTimeout v.collectTimeout
  /-- The module whose member `mark` carries the markers. -/
  markModule : v.markModule = e.markModule

/-- What is wrong with a variable, if it holds no value of its kind. -/
def variableFault? (name : String) (read : String → Except String α) :
    Option String → Option SettingsFailure
  | none => none
  | some text =>
      match read text with
      | .ok _ => none
      | .error message => some (.invalidValue name (quoted text ++ ": " ++ message))

/-- What is wrong with the variables, in the order in which they are looked at. -/
def Variables.faults (e : Variables) : List SettingsFailure :=
  (variableFault? threadsName readNaturalText e.threads).toList ++
    (variableFault? collectEnabledName readBooleanText e.collectEnabled).toList ++
    (variableFault? collectTimeoutName readNaturalText e.collectTimeout).toList

/-- The settings that the layers give together, field by field. -/
structure FromLayers (file : Option Settings) (v : VariableValues) (o : Overrides)
    (s : Settings) : Prop where
  testDirs : s.scan.testDirs = topmost [o.testDirs, file.bind (·.scan.testDirs)]
  fileStart : s.scan.fileStart = file.bind (·.scan.fileStart)
  extensions : s.scan.extensions = file.bind (·.scan.extensions)
  respectIgnoreFiles : s.scan.respectIgnoreFiles = file.bind (·.scan.respectIgnoreFiles)
  exclude : s.scan.exclude = (file.map (·.scan.exclude)).getD []
  threads : s.scan.threads = topmost [o.threads, v.threads, file.bind (·.scan.threads)]
  functionStart : s.naming.functionStart = file.bind (·.naming.functionStart)
  classStart : s.naming.classStart = file.bind (·.naming.classStart)
  classMarker : s.naming.classMarker = file.bind (·.naming.classMarker)
  markModule : s.naming.markModule = topmost [v.markModule, file.bind (·.naming.markModule)]
  enabled : s.collect.enabled =
    topmost [o.collectEnabled, v.collectEnabled, file.bind (·.collect.enabled)]
  command : s.collect.command = file.bind (·.collect.command)
  extraArguments : s.collect.extraArguments = (file.map (·.collect.extraArguments)).getD []
  timeout : s.collect.timeout =
    topmost [o.collectTimeout, v.collectTimeout, file.bind (·.collect.timeout)]
  goodThreshold : s.report.goodThreshold = file.bind (·.report.goodThreshold)

theorem eq_ok_of_toOption {ε α : Type} {x : Except ε α} {a : α} (h : x.toOption = some a) :
    x = .ok a := by
  cases x with
  | error e => cases h
  | ok b => exact congrArg Except.ok (Option.some.inj h)

/-! ## The file -/

variable {t : Tree} {root : Path} {named : Option Path} {file : Option Settings}

theorem Settings.ofFile_eq_ok {p : Path} {text : String} {s : Settings}
    (htext : t.readText p = .ok text) (hsettings : Settings.ofText p.text text = .ok s) :
    Settings.ofFile t p = .ok s := by
  rw [ofFile, htext]
  exact hsettings

theorem FileLayer.ofProject_eq (h : FileLayer t root named file) :
    Settings.ofProject t root named = .ok file := by
  cases h with
  | absent hnamed hfile =>
      subst hnamed
      simp [Settings.ofProject, hfile]
  | present hp hfile htext hsettings =>
      have hread : (Settings.ofFile t _).map some = .ok (some _) :=
        congrArg (Except.map some) (Settings.ofFile_eq_ok htext hsettings)
      subst hp
      cases named with
      | none => exact (if_pos hfile).trans hread
      | some p => exact (if_pos hfile).trans hread

/-! ## The variables -/

section Variables

variable {name : String} {read : String → Except String α}

theorem Sets.variableValue_eq {x : Option String} {a : Option α} (h : Sets read x a) :
    variableValue name read x = .ok a := by
  cases h with
  | unset => rfl
  | value h => rw [variableValue, h]

variable (name read) in
/-- A variable has a fault, which is the failure, or it sets what is read. -/
theorem variableValue_cases (x : Option String) :
    (∃ f, variableFault? name read x = some f ∧ variableValue name read x = .error f) ∨
      ∃ a, variableFault? name read x = none ∧ variableValue name read x = .ok a ∧
        Sets read x a := by
  cases x with
  | none => exact .inr ⟨none, rfl, rfl, .unset⟩
  | some text =>
      cases hread : read text with
      | ok a => exact .inr ⟨some a, by simp [variableFault?, hread],
          by simp [variableValue, hread], .value hread⟩
      | error message =>
          exact .inl ⟨.invalidValue name (quoted text ++ ": " ++ message),
            by simp [variableFault?, hread], by simp [variableValue, hread]⟩

theorem Variables.Set.values_eq {e : Variables} {v : VariableValues} (h : e.Set v) :
    e.values = .ok v := by
  rw [values, h.threads.variableValue_eq, h.collectEnabled.variableValue_eq,
    h.collectTimeout.variableValue_eq, ← h.markModule]
  rfl

/-- The variables are looked at in order, and the first fault is the failure. -/
theorem Variables.values_cases (e : Variables) :
    (∃ f rest, e.faults = f :: rest ∧ e.values = .error f) ∨
      e.faults = [] ∧ ∃ v, e.Set v ∧ e.values = .ok v := by
  unfold faults values
  -- A fault ends the look-ups, so each variable is looked at inside the second case of
  -- the one before.
  rcases variableValue_cases threadsName readNaturalText e.threads with
    ⟨f, hfault, hvalue⟩ | ⟨threads, hfault, hvalue, hthreads⟩
  · exact .inl ⟨f, _, by rw [hfault]; rfl, by rw [hvalue]; rfl⟩
  rw [hfault, hvalue]
  rcases variableValue_cases collectEnabledName readBooleanText e.collectEnabled with
    ⟨f, hfault, hvalue⟩ | ⟨enabled, hfault, hvalue, henabled⟩
  · exact .inl ⟨f, _, by rw [hfault]; rfl, by rw [hvalue]; rfl⟩
  rw [hfault, hvalue]
  rcases variableValue_cases collectTimeoutName readNaturalText e.collectTimeout with
    ⟨f, hfault, hvalue⟩ | ⟨timeout, hfault, hvalue, htimeout⟩
  · exact .inl ⟨f, _, by rw [hfault]; rfl, by rw [hvalue]; rfl⟩
  rw [hfault, hvalue]
  exact .inr ⟨rfl, ⟨threads, enabled, timeout, e.markModule⟩,
    ⟨hthreads, henabled, htimeout, rfl⟩, rfl⟩

end Variables

/-! ## All layers -/

namespace Settings

/-- The settings that the layers give, put one upon the other. -/
def ofLayers (file : Option Settings) (v : VariableValues) (o : Overrides) : Settings :=
  (((file.map (underFile {})).getD {}).underVariables v).underOverrides o

theorem listOr_nil (xs : List α) : listOr xs [] = xs := by
  cases xs with
  | nil => rfl
  | cons x rest => rfl

/-- A file on top of nothing is the file itself. -/
theorem underFile_standard (f : Settings) : underFile {} f = f := by
  simp [underFile, listOr_nil]

theorem fromLayers_ofLayers (file : Option Settings) (v : VariableValues) (o : Overrides) :
    FromLayers file v o (ofLayers file v o) := by
  unfold ofLayers
  cases file with
  | none => constructor <;> simp [underVariables, underOverrides]
  | some f => constructor <;> simp [underFile_standard, underVariables, underOverrides]

end Settings

/-- The layers leave no choice. -/
theorem FromLayers.unique {v : VariableValues} {o : Overrides} {s s' : Settings}
    (h : FromLayers file v o s) (h' : FromLayers file v o s') : s = s' := by
  obtain ⟨⟨_, _, _, _, _, _⟩, ⟨_, _, _, _⟩, ⟨_, _, _, _⟩, ⟨_⟩⟩ := s
  obtain ⟨⟨_, _, _, _, _, _⟩, ⟨_, _, _, _⟩, ⟨_, _, _, _⟩, ⟨_⟩⟩ := s'
  cases h
  cases h'
  simp_all

namespace Settings

theorem validated_eq_ok {s s' : Settings} :
    s.validated = .ok s' ↔ s = s' ∧ s.problem? = none := by
  unfold validated
  cases s.problem? with
  | none => simp
  | some f => simp

/-- Loading puts the layers of a project upon each other, once the variables have
been looked at. -/
theorem load_eq (hfile : FileLayer t root named file) (e : Variables) (o : Overrides) :
    load t root named e o =
      e.values >>= fun v => (ofLayers file v o).validated := by
  rw [load, hfile.ofProject_eq]
  rfl

/-- Each setting of a project comes from the highest layer that sets it.

Let the project have no file with settings, or one that can be read.

* If a variable holds no value of its kind, then the failure names the first of these
  variables, whatever the caller sets.
* Otherwise the layers together give one value for each field, and loading is the
  check of these settings.
* There is a result exactly if all variables hold values and the settings from all
  layers have no problem, and it consists of these settings. -/
theorem load_layered (hfile : FileLayer t root named file) (e : Variables) (o : Overrides) :
    (∀ f rest, e.faults = f :: rest → load t root named e o = .error f) ∧
    (e.faults = [] → ∃ v s, e.Set v ∧ FromLayers file v o s ∧
      load t root named e o = s.validated) ∧
    ∀ s, load t root named e o = .ok s ↔
      ∃ v, e.Set v ∧ FromLayers file v o s ∧ s.problem? = none := by
  have hload := load_eq hfile e o
  rcases e.values_cases with ⟨f, rest, hfaults, hvalues⟩ | ⟨hfaults, v, hset, hvalues⟩
  · have hfailed : load t root named e o = .error f := by rw [hload, hvalues]; rfl
    refine ⟨fun f' rest' h => ?_, fun h => ?_, fun s => ⟨fun h => ?_, ?_⟩⟩
    · obtain ⟨rfl, -⟩ := List.cons.inj (hfaults.symm.trans h)
      exact hfailed
    · rw [hfaults] at h
      cases h
    · rw [hfailed] at h
      cases h
    · rintro ⟨v, hset, -⟩
      rw [hset.values_eq] at hvalues
      cases hvalues
  · have hchecked : load t root named e o = (ofLayers file v o).validated := by
      rw [hload, hvalues]
      rfl
    have hlayers := fromLayers_ofLayers file v o
    refine ⟨fun f rest h => ?_, fun _ => ⟨v, _, hset, hlayers, hchecked⟩, fun s => ?_⟩
    · rw [hfaults] at h
      cases h
    · rw [hchecked, validated_eq_ok]
      constructor
      · rintro ⟨rfl, hproblem⟩
        exact ⟨v, hset, hlayers, hproblem⟩
      · rintro ⟨w, hw, hs, hproblem⟩
        obtain rfl : v = w := Except.ok.inj (hvalues.symm.trans hw.values_eq)
        obtain rfl := hlayers.unique hs
        exact ⟨rfl, hproblem⟩

/-- Settings that give queries no time. -/
def hasty : Settings := { scan := { threads := some 2 }, collect := { timeout := some 0 } }

/-- A project with these settings in its file. -/
def hastyTree : Tree :=
  ⟨.directory [("markaudit.toml",
    .file (utf8 "[scan]\nthreads = 2\n[oracle]\ntimeout_secs = 0\n"))], ⟨"/"⟩⟩

theorem hastyTree_file : FileLayer hastyTree ⟨"/"⟩ none (some hasty) := by
  have htext : hastyTree.readText ⟨"/markaudit.toml"⟩ =
      .ok "[scan]\nthreads = 2\n[oracle]\ntimeout_secs = 0\n" :=
    eq_ok_of_toOption (by decide +kernel)
  refine .present ?_ ?_ htext ?_
  · decide +kernel
  · decide +kernel
  · exact eq_ok_of_toOption (by decide +kernel)

/-- The caller mends the timeout of the file, and a variable replaces the number of
workers.  A variable that holds no number is a failure even if the caller gives a
number, and without the caller the timeout of the file is one. -/
theorem load_layered_hasty :
    FileLayer hastyTree ⟨"/"⟩ none (some hasty) ∧
    load hastyTree ⟨"/"⟩ none { threads := some " +8 " } { collectTimeout := some 5 } =
      .ok { scan := { threads := some 8 }, collect := { timeout := some 5 } } ∧
    load hastyTree ⟨"/"⟩ none { threads := some "many", collectTimeout := some "" }
        { threads := some 3, collectTimeout := some 5 } =
      .error (.invalidValue "MARKAUDIT_SCAN_THREADS"
        "\"many\": invalid digit found in string") ∧
    load hastyTree ⟨"/"⟩ none {} {} =
      .error (.validation "oracle.timeout_secs" "must be greater than 0") := by
  refine ⟨hastyTree_file, ?_, ?_, ?_⟩
  · refine ((load_layered hastyTree_file _ _).2.2 _).2 ⟨⟨some 8, none, none, none⟩, ?_, ?_, ?_⟩
    · exact ⟨.value (eq_ok_of_toOption (by decide +kernel)), .unset, .unset, rfl⟩
    · exact fromLayers_ofLayers (some hasty) _ _
    · decide +kernel
  · refine (load_layered hastyTree_file _ _).1 _
      [.invalidValue "MARKAUDIT_ORACLE_TIMEOUT_SECS"
        "\"\": cannot parse integer from empty string"] ?_
    decide +kernel
  · obtain ⟨v, s, hset, hlayers, hload⟩ := (load_layered hastyTree_file {} {}).2.1 rfl
    obtain rfl : ⟨none, none, none, none⟩ = v := Except.ok.inj hset.values_eq
    obtain rfl := (fromLayers_ofLayers (some hasty) _ {}).unique hlayers
    rw [hload]
    rfl

end Settings

end TestCensus
