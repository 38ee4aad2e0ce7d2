import TestCensus.Discovery
import TestCensus.Failure
import TestCensus.Files.Tree
import TestCensus.Tally

/-!
# Records of files

Every test file that was located gives one record: its entry in the suite, and
the warnings about it.  A file that cannot be read, or whose source cannot, has
an entry without functions and one warning.  Any other file has the functions
that were discovered, and a warning for each redeclaration.

The record depends on the path under which the file is reported and on what
reading it gives, and on nothing else (`FileRecord.ofReading`).
-/

namespace TestCensus

open TestCensus.Files

/-- What a file adds to a census. -/
structure FileRecord where
  /-- The entry of the file. -/
  file : TestFile
  /-- The warnings about the file. -/
  warnings : List Warning

/-- The function that a declaration adds to a suite. -/
def Declaration.testFunction (markModule path : String) (d : Declaration) : TestFunction :=
  { name := d.name
    className := className? d.classPath
    file := path
    line := d.line
    markers := d.markers
    isAsync := d.isAsync
    docstring := d.docstring
    instances := Decoration.instances markModule d.decorators }

/-- The name of a redeclared test behind the names of its classes. -/
def Redeclaration.qualifiedName (r : Redeclaration) : String :=
  match className? r.classPath with
  | some c => c ++ "::" ++ r.name
  | none => r.name

namespace FileRecord

/-- The record of a file that could not be read. -/
def ofFailure (path : String) (f : FileFailure) : FileRecord :=
  ⟨⟨path, []⟩, [.parseFailure path f.message]⟩

/-- The record of a file in which tests were discovered. -/
def ofParsed (rules : NamingRules) (f : ParsedFile) : FileRecord :=
  { file := ⟨f.path, f.tests.map (Declaration.testFunction rules.markModule f.path)⟩
    warnings := f.redeclared.map fun r =>
      .redeclaration f.path r.qualifiedName r.line r.firstLine }

/-- The record of a source. -/
def ofSource (rules : NamingRules) (path source : String) : FileRecord :=
  match discover rules path source with
  | .ok f => ofParsed rules f
  | .error e => ofFailure path (.malformed path e)

/-- The record of a file that is reported under a path. -/
def ofReading (rules : NamingRules) (shown : String) (path : Path) :
    Except PathError String → FileRecord
  | .ok source => ofSource rules shown source
  | .error e => ofFailure shown (.unreadable path.text e.message)

/-- The record of a file in a tree, reported relative to a base. -/
def ofFile (rules : NamingRules) (t : Tree) (base : List Component) (path : Path) :
    FileRecord := ofReading rules (relativePath base path) path (t.readText path)

end FileRecord

end TestCensus
