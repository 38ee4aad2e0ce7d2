import TestCensus.Failure
import TestCensus.Settings.Basic
import TestCensus.Text.Blank

/-!
# Valid settings

Some values can be written and read but not worked with: a command without a
program, a query without time, an empty list of extensions, and empty names where
a name has to be compared.  `Settings.problem?` finds the first of them, and
settings without a problem are valid.
-/

namespace TestCensus

open TestCensus.Text

/-- The command names a program. -/
def namesProgram : List String → Bool
  | [] => false
  | program :: _ => !isBlankText program.toList

/-- A problem of a setting, if the condition for it holds. -/
def problemIf (bad : Bool) (field message : String) : Option SettingsFailure :=
  if bad then some (.validation field message) else none

/-- The problem of a text that must not be empty. -/
def emptyProblem? (field : String) (text : Option String) : Option SettingsFailure :=
  problemIf (text = some "") field "must not be empty"

namespace Settings

/-- The first problem of settings, if there is one. -/
def problem? (s : Settings) : Option SettingsFailure :=
  problemIf (s.collect.command.any fun c => !namesProgram c)
      "oracle.command" "must name a program"
    <|> problemIf (s.collect.timeout = some 0) "oracle.timeout_secs" "must be greater than 0"
    <|> problemIf (s.scan.extensions = some []) "scan.extensions"
      "must list at least one extension"
    <|> emptyProblem? "scan.file_prefix" s.scan.fileStart
    <|> emptyProblem? "parser.function_prefix" s.naming.functionStart
    <|> emptyProblem? "parser.class_prefix" s.naming.classStart
    <|> emptyProblem? "parser.mark_namespace" s.naming.markModule

/-- Settings that are valid. -/
def validated (s : Settings) : Except SettingsFailure Settings :=
  match s.problem? with
  | some problem => .error problem
  | none => .ok s

end Settings

end TestCensus
