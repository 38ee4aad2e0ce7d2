import TestCensus.Text.Kept
import TestCensus.Text.Parts

/-!
# Paths

A path is kept as it was written, since it is shown so, but it is compared by its
components.  Doubled slashes, a slash at the end, and dots on their own vanish
there, except for a dot at the beginning of a path that is not absolute.

* `Path.join` puts a path behind a directory.  An absolute path replaces the
  directory.
* `Path.components` are what paths are ordered and identified by
  (`Path.comesBefore`, `Path.same`).
* `relativePath` is how a path is reported: its components below a base, with
  slashes between them.  A path outside of the base is reported whole.
-/

namespace TestCensus.Files

open TestCensus.Text

/-! ## Components -/

/-- A component of a path. -/
inductive Component where
  /-- The root of the file system. -/
  | root
  /-- The current directory. -/
  | here
  /-- The parent directory. -/
  | up
  /-- An entry of a directory. -/
  | name (text : String)
deriving DecidableEq, Repr

namespace Component

/-- The component as written. -/
def text : Component → String
  | root => "/"
  | here => "."
  | up => ".."
  | name s => s

/-- The place of the kind of a component in the order of components. -/
def rank : Component → Nat
  | root => 0
  | here => 1
  | up => 2
  | name _ => 3

/-- The component as bytes. -/
def bytes (c : Component) : List UInt8 := keptBytes c.text

/-- The text of the component comes before that of the other one, by its bytes.  Texts with the
same bytes are in the order of their characters. -/
def textLt (a b : Component) : Prop :=
  a.bytes < b.bytes ∨ (a.bytes = b.bytes ∧ a.text < b.text)

instance (a b : Component) : Decidable (a.textLt b) :=
  inferInstanceAs (Decidable (a.bytes < b.bytes ∨ (a.bytes = b.bytes ∧ a.text < b.text)))

/-- The component comes before the other one, by kind and then by text. -/
def lt (a b : Component) : Prop := a.rank < b.rank ∨ (a.rank = b.rank ∧ a.textLt b)

instance : LT Component := ⟨lt⟩

instance (a b : Component) : Decidable (a < b) :=
  inferInstanceAs (Decidable (a.rank < b.rank ∨ (a.rank = b.rank ∧ a.textLt b)))

/-- The component for a piece of a path behind its first slash. -/
def ofInner? (piece : List Char) : Option Component :=
  match piece with
  | [] => none
  | ['.'] => none
  | ['.', '.'] => some up
  | cs => some (name (String.ofList cs))

/-- The component for the first piece of a path that is not absolute. -/
def ofFirst? (piece : List Char) : Option Component :=
  if piece = ['.'] then some here else ofInner? piece

end Component

/-! ## Paths -/

/-- A path as it was written. -/
structure Path where
  /-- The text of the path. -/
  text : String
deriving DecidableEq, Repr

namespace Path

/-- The path starts at the root of the file system. -/
def isAbsolute (p : Path) : Bool := p.text.toList.head? = some '/'

/-- The components of a path. -/
def components (p : Path) : List Component :=
  match splitOn '/' p.text.toList with
  | [] => []
  | first :: inner =>
      (if p.isAbsolute then some .root else Component.ofFirst? first).toList ++
        inner.filterMap Component.ofInner?

/-- The path of something below a directory. -/
def join (directory : Path) (below : String) : Path :=
  if Path.isAbsolute ⟨below⟩ then ⟨below⟩
  else if directory.text.isEmpty || directory.text.toList.getLast? = some '/' then
    ⟨directory.text ++ below⟩
  else ⟨directory.text ++ "/" ++ below⟩

/-- The last component, if it is a name. -/
def fileName? (p : Path) : Option String :=
  match p.components.getLast? with
  | some (.name s) => some s
  | _ => none

/-- The path without slashes at its end. -/
def withoutEndSlashes (p : Path) : Path :=
  ⟨String.ofList (p.text.toList.reverse.dropWhile (· == '/')).reverse⟩

/-- The beginnings of a path that end before a slash, and the path itself. -/
def beginnings (p : Path) : List Path :=
  let pieces := splitOn '/' p.text.toList
  (List.range pieces.length).map fun n =>
    ⟨String.ofList (['/'].intercalate (pieces.take (n + 1)))⟩

/-- The path of the directory that holds a path; the empty path if it has none. -/
def directory (p : Path) : Path :=
  ⟨String.ofList (['/'].intercalate (splitOn '/' p.withoutEndSlashes.text.toList).dropLast)⟩

/-- The path does not come after the other one in the order of paths. -/
def comesBefore (a b : Path) : Bool := decide (a.components ≤ b.components)

/-- The paths have the same components. -/
def same (a b : Path) : Bool := a.components == b.components

end Path

/-! ## Reported paths -/

/-- The components of the directory that holds a path; none for the root and for
an empty path. -/
def parentComponents (components : List Component) : List Component :=
  match components.getLast? with
  | none => []
  | some .root => []
  | some _ => components.dropLast

/-- What is left of a list after the beginning `start`, if it begins so. -/
def below? (start : List Component) (components : List Component) : Option (List Component) :=
  match start, components with
  | [], rest => some rest
  | _ :: _, [] => none
  | s :: start, c :: rest => if s = c then below? start rest else none

/-- The text of components as a reader sees them, with slashes between them. -/
def slashed (components : List Component) : String :=
  "/".intercalate (components.map fun c => displayed c.text)

/-- The path as reported relative to a base. -/
def relativePath (base : List Component) (path : Path) : String :=
  slashed ((below? base path.components).getD path.components)

end TestCensus.Files
