import TestCensus.Text.Parts

/-!
# Names of test files

A test file is recognized by its name alone.  What follows the last dot of the
name is its extension and has to be one of the configured ones.  What stands
before that dot has to start as configured.  A name without a dot is never the
name of a test file.
-/

namespace TestCensus.Files

open TestCensus.Text

/-- The name starts with `start` and has one of the `extensions`. -/
def isTestFileName (start : String) (extensions : List String) (name : String) : Bool :=
  match splitAtLast '.' name.toList with
  | none => false
  | some (stem, extension) =>
      startsWith start.toList stem && extensions.contains (String.ofList extension)

end TestCensus.Files
