import TestCensus.Failure
import TestCensus.Settings.Basic
import TestCensus.Toml.Document
import TestCensus.Toml.Printer

/-!
# Settings as text

Settings are written as a TOML document with one section for each of their parts.
`Settings.ofText` reads such a document.  Keys that are not settings are passed
over, and so are sections.  The values of settings have to be of their kinds, and
numbers must not be negative.  A section may also be an array, which gives the
settings of the section in their order, and it may be a moment, which gives none.

`Settings.toText` writes all four sections and in them the settings that are not
absent.  A number that a TOML integer cannot hold cannot be written.
-/

namespace TestCensus

open TestCensus.Toml

/-! ## Reading -/

namespace Toml

/-- The settings of a section by their position and name, if the value can be a
section. -/
def Value.fields? : Value → Option (Nat → String → Option Value)
  | .table entries => some fun _ name => entries.lookup name
  | .array items => some fun i _ => items[i]?
  | .moment => some fun _ _ => none
  | _ => none

/-- A text. -/
def Value.text? : Value → Option String
  | .text s => some s
  | _ => none

/-- A truth value. -/
def Value.boolean? : Value → Option Bool
  | .boolean b => some b
  | _ => none

/-- A number that is not negative. -/
def Value.natural? : Value → Option Nat
  | .integer n => if 0 ≤ n then some n.toNat else none
  | _ => none

/-- A list of texts. -/
def Value.texts? : Value → Option (List String)
  | .array items => items.mapM Value.text?
  | _ => none

end Toml

/-- A setting of a kind, which may be absent. -/
def setting? (kind : Value → Option α) : Option Value → Option (Option α)
  | none => some none
  | some v => (kind v).map some

/-- The part of the settings that a section gives. -/
def ofSection (read : (Nat → String → Option Value) → Option α) (standard : α) :
    Option Value → Option α
  | none => some standard
  | some v => v.fields?.bind read

/-- Where the test files are. -/
def ScanSettings.ofFields? (field : Nat → String → Option Value) : Option ScanSettings := do
  return {
    testDirs := ← setting? Value.texts? (field 0 "test_dirs")
    fileStart := ← setting? Value.text? (field 1 "file_prefix")
    extensions := ← setting? Value.texts? (field 2 "extensions")
    respectIgnoreFiles := ← setting? Value.boolean? (field 3 "respect_gitignore")
    exclude := (← setting? Value.texts? (field 4 "exclude")).getD []
    threads := ← setting? Value.natural? (field 5 "threads") }

/-- By which names tests are recognized. -/
def NamingSettings.ofFields? (field : Nat → String → Option Value) : Option NamingSettings := do
  return {
    functionStart := ← setting? Value.text? (field 0 "function_prefix")
    classStart := ← setting? Value.text? (field 1 "class_prefix")
    classMarker := ← setting? Value.text? (field 2 "class_marker")
    markModule := ← setting? Value.text? (field 3 "mark_namespace") }

/-- How the collector is asked. -/
def CollectSettings.ofFields? (field : Nat → String → Option Value) :
    Option CollectSettings := do
  return {
    enabled := ← setting? Value.boolean? (field 0 "enabled")
    command := ← setting? Value.texts? (field 1 "command")
    extraArguments := (← setting? Value.texts? (field 2 "extra_args")).getD []
    timeout := ← setting? Value.natural? (field 3 "timeout_secs") }

/-- How a suite is rated. -/
def ReportSettings.ofFields? (field : Nat → String → Option Value) : Option ReportSettings := do
  return { goodThreshold := ← setting? Value.natural? (field 0 "good_threshold") }

namespace Settings

/-- The settings of a table. -/
def ofTable? (t : Table) : Option Settings := do
  return {
    scan := ← ofSection ScanSettings.ofFields? {} (t.lookup "scan")
    naming := ← ofSection NamingSettings.ofFields? {} (t.lookup "parser")
    collect := ← ofSection CollectSettings.ofFields? {} (t.lookup "oracle")
    report := ← ofSection ReportSettings.ofFields? {} (t.lookup "report") }

/-- The settings of a text, which is the content of a file. -/
def ofText (path text : String) : Except SettingsFailure Settings :=
  match Toml.read text.toList with
  | none => .error (.parse path "TOML parse error: the text is no document")
  | some t =>
      match ofTable? t with
      | none => .error (.parse path "TOML parse error: a setting has a value of another kind")
      | some s => .ok s

end Settings

/-! ## Writing -/

/-- A number as written, if it can be. -/
def writtenNatural? (n : Nat) : Option (List Char) :=
  if n ≤ maxInteger then some (toString n).toList else none

/-- A truth value as written. -/
def writtenBoolean (b : Bool) : List Char := if b then "true".toList else "false".toList

/-- The entry of a setting, which may be absent. -/
def entryOf (name : String) (write : α → List Char) : Option α → List Char
  | none => []
  | some a => writtenEntry name (write a)

/-- The entry of a number, which may be absent, if it can be written. -/
def naturalEntry? (name : String) : Option Nat → Option (List Char)
  | none => some []
  | some n => (writtenNatural? n).map (writtenEntry name)

/-- A text setting as written. -/
def writtenString (s : String) : List Char := writtenText s.toList

namespace Settings

/-- The section that says where the test files are. -/
def scanSection? (s : ScanSettings) : Option (List Char) := do
  let threads ← naturalEntry? "threads" s.threads
  return writtenSection "scan"
    [ entryOf "test_dirs" writtenList s.testDirs,
      entryOf "file_prefix" writtenString s.fileStart,
      entryOf "extensions" writtenList s.extensions,
      entryOf "respect_gitignore" writtenBoolean s.respectIgnoreFiles,
      writtenEntry "exclude" (writtenList s.exclude),
      threads ]

/-- The section that says by which names tests are recognized. -/
def namingSection (s : NamingSettings) : List Char :=
  writtenSection "parser"
    [ entryOf "function_prefix" writtenString s.functionStart,
      entryOf "class_prefix" writtenString s.classStart,
      entryOf "class_marker" writtenString s.classMarker,
      entryOf "mark_namespace" writtenString s.markModule ]

/-- The section that says how the collector is asked. -/
def collectSection? (s : CollectSettings) : Option (List Char) := do
  let timeout ← naturalEntry? "timeout_secs" s.timeout
  return writtenSection "oracle"
    [ entryOf "enabled" writtenBoolean s.enabled,
      entryOf "command" writtenList s.command,
      writtenEntry "extra_args" (writtenList s.extraArguments),
      timeout ]

/-- The section that says how a suite is rated. -/
def reportSection? (s : ReportSettings) : Option (List Char) := do
  let threshold ← naturalEntry? "good_threshold" s.goodThreshold
  return writtenSection "report" [threshold]

/-- The document of settings, with an empty line between two sections. -/
def written? (s : Settings) : Option (List Char) := do
  let scan ← scanSection? s.scan
  let collect ← collectSection? s.collect
  let report ← reportSection? s.report
  return scan ++ ['\n'] ++ namingSection s.naming ++ ['\n'] ++ collect ++ ['\n'] ++ report

/-- The text of settings. -/
def toText (s : Settings) : Except SettingsFailure String :=
  match s.written? with
  | some cs => .ok (String.ofList cs)
  | none => .error (.parse "<serialization>" "a number does not fit a TOML integer")

end Settings

end TestCensus
