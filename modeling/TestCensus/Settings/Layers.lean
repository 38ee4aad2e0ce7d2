import TestCensus.Files.Tree
import TestCensus.Number.Numeral
import TestCensus.Settings.Text
import TestCensus.Settings.Validation

/-!
# Layers of settings

Settings come from three layers.  The lowest is a file: the one that is named, or
the one with the standard name in the root if it exists.  Above it are variables
of the environment, and above these what the caller gives (`Overrides`).  A layer
that sets a value replaces the value below it and leaves all others alone.  What no
layer sets stays absent, and a list in the file that is empty sets nothing.

Every variable has to hold a value of its kind, even if the caller replaces it.
What the layers give together has to be valid.
-/

namespace TestCensus

open TestCensus.Files TestCensus.Number TestCensus.Text

/-- The name of the file with the settings of a project. -/
def settingsFileName : String := "markaudit.toml"

/-! ## The file -/

namespace Settings

/-- The settings in a file. -/
def ofFile (t : Tree) (p : Path) : Except SettingsFailure Settings :=
  match t.readText p with
  | .ok text => Settings.ofText p.text text
  | .error _ => .error (.fileNotFound p.text)

/-- The settings in the file that is named, or else in the file of the root if there
is one. -/
def ofProject (t : Tree) (root : Path) (named : Option Path) :
    Except SettingsFailure (Option Settings) :=
  match named with
  | some p => if t.has p then (ofFile t p).map some else .error (.fileNotFound p.text)
  | none =>
      let p := root.join settingsFileName
      if t.has p then (ofFile t p).map some else .ok none

end Settings

/-! ## The environment -/

/-- The variables of the environment that settings come from. -/
structure Variables where
  /-- The number of workers. -/
  threads : Option String := none
  /-- The collector is asked at all. -/
  collectEnabled : Option String := none
  /-- The seconds that a query may take. -/
  collectTimeout : Option String := none
  /-- The module whose member `mark` carries the markers. -/
  markModule : Option String := none
deriving DecidableEq, Repr

namespace Variables

/-- The names of the variables. -/
def threadsName : String := "MARKAUDIT_SCAN_THREADS"

@[inherit_doc threadsName]
def collectEnabledName : String := "MARKAUDIT_ORACLE_ENABLED"

@[inherit_doc threadsName]
def collectTimeoutName : String := "MARKAUDIT_ORACLE_TIMEOUT_SECS"

@[inherit_doc threadsName]
def markModuleName : String := "MARKAUDIT_MARK_NAMESPACE"

/-- The variables in an environment. -/
def ofLookup (lookup : String → Option String) : Variables :=
  { threads := lookup threadsName
    collectEnabled := lookup collectEnabledName
    collectTimeout := lookup collectTimeoutName
    markModule := lookup markModuleName }

end Variables

/-- The number that a text gives, or what is wrong with it. -/
def readNaturalText (s : String) : Except String Nat :=
  (readNumeral (trimmed s).toList).mapError NumeralError.message

/-- The truth value that a text gives, or what is wrong with it. -/
def readBooleanText (s : String) : Except String Bool :=
  match trimmed s with
  | "true" => .ok true
  | "false" => .ok false
  | _ => .error "provided string was not `true` or `false`"

/-- The value that a variable gives, if it is set. -/
def variableValue (name : String) (read : String → Except String α) :
    Option String → Except SettingsFailure (Option α)
  | none => .ok none
  | some s =>
      match read s with
      | .ok a => .ok (some a)
      | .error message => .error (.invalidValue name (quoted s ++ ": " ++ message))

/-- The values of the variables. -/
structure VariableValues where
  /-- The number of workers. -/
  threads : Option Nat
  /-- The collector is asked at all. -/
  collectEnabled : Option Bool
  /-- The seconds that a query may take. -/
  collectTimeout : Option Nat
  /-- The module whose member `mark` carries the markers. -/
  markModule : Option String
deriving DecidableEq, Repr

/-- The values of the variables that are set.  The first variable without a value
of its kind is reported. -/
def Variables.values (v : Variables) : Except SettingsFailure VariableValues := do
  let threads ← variableValue threadsName readNaturalText v.threads
  let collectEnabled ← variableValue collectEnabledName readBooleanText v.collectEnabled
  let collectTimeout ← variableValue collectTimeoutName readNaturalText v.collectTimeout
  return { threads, collectEnabled, collectTimeout, markModule := v.markModule }

/-! ## The caller -/

/-- What a caller sets. -/
structure Overrides where
  /-- The directories with tests. -/
  testDirs : Option (List String) := none
  /-- The number of workers. -/
  threads : Option Nat := none
  /-- The collector is asked at all. -/
  collectEnabled : Option Bool := none
  /-- The seconds that a query may take. -/
  collectTimeout : Option Nat := none
deriving DecidableEq, Repr

/-! ## All layers -/

namespace Settings

/-- A list, or another one where it is empty. -/
def listOr (new old : List α) : List α := if new.isEmpty then old else new

/-- The settings under those of a file. -/
def underFile (s file : Settings) : Settings :=
  { scan :=
      { testDirs := file.scan.testDirs <|> s.scan.testDirs
        fileStart := file.scan.fileStart <|> s.scan.fileStart
        extensions := file.scan.extensions <|> s.scan.extensions
        respectIgnoreFiles := file.scan.respectIgnoreFiles <|> s.scan.respectIgnoreFiles
        exclude := listOr file.scan.exclude s.scan.exclude
        threads := file.scan.threads <|> s.scan.threads }
    naming :=
      { functionStart := file.naming.functionStart <|> s.naming.functionStart
        classStart := file.naming.classStart <|> s.naming.classStart
        classMarker := file.naming.classMarker <|> s.naming.classMarker
        markModule := file.naming.markModule <|> s.naming.markModule }
    collect :=
      { enabled := file.collect.enabled <|> s.collect.enabled
        command := file.collect.command <|> s.collect.command
        extraArguments := listOr file.collect.extraArguments s.collect.extraArguments
        timeout := file.collect.timeout <|> s.collect.timeout }
    report := { goodThreshold := file.report.goodThreshold <|> s.report.goodThreshold } }

/-- The settings under the values of the variables. -/
def underVariables (s : Settings) (v : VariableValues) : Settings :=
  { s with
    scan := { s.scan with threads := v.threads <|> s.scan.threads }
    collect := { s.collect with
      enabled := v.collectEnabled <|> s.collect.enabled
      timeout := v.collectTimeout <|> s.collect.timeout }
    naming := { s.naming with markModule := v.markModule <|> s.naming.markModule } }

/-- The settings under what a caller sets. -/
def underOverrides (s : Settings) (o : Overrides) : Settings :=
  { s with
    scan := { s.scan with
      testDirs := o.testDirs <|> s.scan.testDirs
      threads := o.threads <|> s.scan.threads }
    collect := { s.collect with
      enabled := o.collectEnabled <|> s.collect.enabled
      timeout := o.collectTimeout <|> s.collect.timeout } }

/-- The settings of a project from all layers. -/
def load (t : Tree) (root : Path) (named : Option Path) (environment : Variables)
    (overrides : Overrides) : Except SettingsFailure Settings := do
  let file ← ofProject t root named
  let values ← environment.values
  let lowest := (file.map (underFile {})).getD {}
  ((lowest.underVariables values).underOverrides overrides).validated

end Settings

end TestCensus
