import TestCensus.Toml.Item
import TestCensus.Toml.Number

/-!
# TOML documents

A document is a list of lines: assignments, headers and blank lines.  `value`
reads a value, `lines` the lines, and `read` the table that the lines build.

Arrays and inline tables may be nested, but not deeper than `depthLimit`, and a
key has no more parts than that.
-/

namespace TestCensus.Toml

/-- How deep values may be nested. -/
def depthLimit : Nat := 79

/-! ## Keys -/

/-- A character of a key without quotes. -/
def isKeyChar (c : Char) : Bool :=
  isDecimal c || ('a' ≤ c && c ≤ 'z') || ('A' ≤ c && c ≤ 'Z') || c = '_' || c = '-'

/-- One part of a key. -/
def keyPart (cs : List Char) : Option (String × List Char) :=
  match cs with
  | [] => none
  | c :: _ =>
      if c = '"' || c = '\'' then (shortText cs).map fun (s, rest) => (String.ofList s, rest)
      else if isKeyChar c then
        some (String.ofList (cs.takeWhile isKeyChar), cs.dropWhile isKeyChar)
      else none

/-- A key of at most `n` parts, which dots separate: the parts before the last one,
and the last one. -/
def key : Nat → Reader (List String × String)
  | 0, _ => none
  | n + 1, cs => do
      let (name, rest) ← keyPart (skipSpaces cs)
      match skipSpaces rest with
      | '.' :: rest => do
          let ((path, last), rest) ← key n rest
          return ((name :: path, last), rest)
      | rest => return (([], name), rest)

/-- A key and the sign behind it. -/
def keyAndSign (cs : List Char) : Option ((List String × String) × List Char) := do
  let (k, rest) ← key depthLimit cs
  match rest with
  | '=' :: rest => return (k, skipSpaces rest)
  | _ => none

/-! ## Values -/

/-- The elements of an array, behind its opening bracket or a comma. -/
def elements (element : Reader Value) : Nat → Reader (List Value)
  | 0, _ => none
  | n + 1, cs =>
      match skipFillers cs with
      | ']' :: rest => some ([], rest)
      | cs => do
          let (v, rest) ← element cs
          match skipFillers rest with
          | ',' :: rest => do
              let (vs, rest) ← elements element n rest
              return (v :: vs, rest)
          | ']' :: rest => return ([v], rest)
          | _ => none

/-- The entries of an inline table, going on from `es`. -/
def members (element : Reader Value) : Nat → Entries → Reader Entries
  | 0, _, _ => none
  | n + 1, es, cs => do
      let ((path, name), rest) ← keyAndSign cs
      let (v, rest) ← element rest
      let es ← es.assign name v path
      match skipSpaces rest with
      | ',' :: rest => members element n es rest
      | '}' :: rest => return (es, rest)
      | _ => none

/-- A value that has at most `depth` values around its innermost one. -/
def value : Nat → Reader Value
  | _, [] => none
  | depth, c :: rest =>
      if c = '"' || c = '\'' then
        (quotedText (c :: rest)).map fun (s, rest) => (.text (String.ofList s), rest)
      else if c = 't' then
        match rest with
        | 'r' :: 'u' :: 'e' :: rest => some (.boolean true, rest)
        | _ => none
      else if c = 'f' then
        match rest with
        | 'a' :: 'l' :: 's' :: 'e' :: rest => some (.boolean false, rest)
        | _ => none
      else if c = '[' then
        match depth with
        | 0 => none
        | d + 1 =>
            (elements (value d) (rest.length + 1) rest).map fun (vs, rest) => (.array vs, rest)
      else if c = '{' then
        match depth with
        | 0 => none
        | d + 1 =>
            match skipSpaces rest with
            | '}' :: rest => some (.table [], rest)
            | rest =>
                (members (value d) (rest.length + 1) [] rest).map fun (es, rest) =>
                  (.table (Item.toTable es), rest)
      else numberOrMoment (c :: rest)

/-! ## Lines -/

/-- A line of a document that is not blank. -/
inductive Line where
  /-- The header of a table. -/
  | header (path : List String) (name : String)
  /-- The header of an element of an array of tables. -/
  | elementHeader (path : List String) (name : String)
  /-- A value given to a key. -/
  | assignment (path : List String) (name : String) (v : Value)

/-- A line that is not blank, without its end. -/
def line : Reader Line
  | '[' :: '[' :: rest => do
      let ((path, name), rest) ← key depthLimit rest
      match rest with
      | ']' :: ']' :: rest => return (.elementHeader path name, rest)
      | _ => none
  | '[' :: rest => do
      let ((path, name), rest) ← key depthLimit rest
      match rest with
      | ']' :: rest => return (.header path name, rest)
      | _ => none
  | cs => do
      let ((path, name), rest) ← keyAndSign cs
      let (v, rest) ← value depthLimit rest
      return (.assignment path name v, rest)

/-- At most `n` lines that make up a text. -/
def lines : Nat → List Char → Option (List Line)
  | 0, _ => none
  | n + 1, cs =>
      match cs with
      | [] => some []
      | _ =>
          match closeLine? cs with
          | some rest => lines n rest
          | none => do
              let (l, rest) ← line (skipSpaces cs)
              let rest ← closeLine? rest
              return l :: (← lines n rest)

/-! ## Tables -/

/-- A table that is being built, and the path of the table that the assignments
mean. -/
structure Draft where
  /-- The entries of the whole table. -/
  entries : Entries
  /-- The path given by the last header. -/
  path : List String

/-- Adds a line to a draft. -/
def Draft.add (d : Draft) : Line → Option Draft
  | .header path name => do
      return ⟨← d.entries.changeAt (Entries.openTable name) path, path ++ [name]⟩
  | .elementHeader path name => do
      return ⟨← d.entries.changeAt (Entries.openElement name) path, path ++ [name]⟩
  | .assignment path name v => do
      return ⟨← d.entries.changeAt (Entries.assign name v path) d.path, d.path⟩

/-- Adds lines to a draft, one after the other. -/
def Draft.addAll (d : Draft) : List Line → Option Draft
  | [] => some d
  | l :: rest => do (← d.add l).addAll rest

/-- The table that lines build. -/
def build (ls : List Line) : Option Table :=
  (Draft.addAll ⟨[], []⟩ ls).map fun d => Item.toTable d.entries

/-- A text without the byte order mark at its beginning. -/
def skipMark : List Char → List Char
  | c :: rest => if c.toNat = 0xFEFF then rest else c :: rest
  | [] => []

/-- The table that a text writes. -/
def read (cs : List Char) : Option Table :=
  let cs := skipMark cs
  (lines (cs.length + 1) cs).bind build

end TestCensus.Toml
