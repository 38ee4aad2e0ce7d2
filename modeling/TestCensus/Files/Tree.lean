import TestCensus.Files.Path
import TestCensus.Text.Kept

/-!
# Directory trees

A tree holds the files, directories and links that a census looks at, and the
directory that relative paths start from.

A path is followed piece by piece (`stepThrough`).  An empty piece and a dot stay,
two dots go to the directory that holds the current one, and any other piece is
the name of an entry.  All of these need a directory to stand in.  A link is
replaced by its target, which starts at the root if it is absolute.  At the last
piece a link is followed only if the caller wants that.  A path may lead through
`linkLimit` links and no more, which is what ends the walk along links that lead
in a circle.

The system may keep a directory closed.  A path may end there, also with slashes
behind it, but it cannot go on from there, not even by a dot.

A path that leads nowhere may still say where a new entry would go: its last name
is missing in a directory that exists (`Landing.absent`).
-/

namespace TestCensus.Files

open TestCensus.Text

/-! ## Why a path cannot be used -/

/-- Why the system cannot do something with a path. -/
inductive PathError where
  /-- There is no entry of that name. -/
  | notFound
  /-- The path leads through something that is no directory. -/
  | notDirectory
  /-- A directory is no file. -/
  | isDirectory
  /-- A name is longer than the system allows. -/
  | nameTooLong
  /-- The path leads through too many links. -/
  | tooManyLinks
  /-- The path holds the character zero. -/
  | holdsNul
  /-- The content is no text. -/
  | notText
  /-- The system does not permit it. -/
  | denied
  /-- The device does not do it. -/
  | inputOutput
deriving DecidableEq, Repr

/-- The text of an error, as the system gives it. -/
def PathError.message : PathError → String
  | notFound => "No such file or directory (os error 2)"
  | notDirectory => "Not a directory (os error 20)"
  | isDirectory => "Is a directory (os error 21)"
  | nameTooLong => "File name too long (os error 36)"
  | tooManyLinks => "Too many levels of symbolic links (os error 40)"
  | holdsNul => "file name contained an unexpected NUL byte"
  | notText => "stream did not contain valid UTF-8"
  | denied => "Permission denied (os error 13)"
  | inputOutput => "Input/output error (os error 5)"

/-! ## Trees -/

/-- A file, a directory, or a link. -/
inductive Node where
  /-- A file with its content. -/
  | file (content : List UInt8)
  /-- A directory with its entries. -/
  | directory (entries : List (String × Node))
  /-- A directory that can be neither listed nor passed through, and why not. -/
  | closed (why : PathError)
  /-- A link with the path that it stands for. -/
  | link (target : String)

/-- The files of a system and the directory that relative paths start from. -/
structure Tree where
  /-- The root directory. -/
  root : Node
  /-- The current directory, as an absolute path. -/
  current : Path

namespace Node

/-- The entries of a directory that is not closed; nothing else has any. -/
def entries : Node → List (String × Node)
  | directory es => es
  | _ => []

/-- The node is a directory. -/
def isDirectory : Node → Bool
  | directory _ | closed _ => true
  | _ => false

/-- The node is a file. -/
def isFile : Node → Bool
  | file _ => true
  | _ => false

/-- The entry at the end of a list of names. -/
def at? : Node → List String → Option Node
  | node, [] => some node
  | directory es, name :: rest =>
      match es.lookup name with
      | some child => child.at? rest
      | none => none
  | _, _ :: _ => none
termination_by structural _ names => names

end Node

/-- Entries with a new node under a name, in its old place or at the end. -/
def putEntry (name : String) (node : Node) : List (String × Node) → List (String × Node)
  | [] => [(name, node)]
  | (n, old) :: rest => if n = name then (n, node) :: rest else (n, old) :: putEntry name node rest

namespace Node

/-- The tree with a new node at the end of a list of names.  Directories that are
missing on the way are made. -/
def put (new : Node) : Node → List String → Node
  | _, [] => new
  | node, name :: rest =>
      directory (putEntry name (put new ((node.entries.lookup name).getD (directory [])) rest)
        node.entries)
termination_by structural _ names => names

/-- The tree without the node at the end of a list of names. -/
def erase : Node → List String → Node
  | node, [] => node
  | directory es, [name] => directory (es.filter fun e => e.1 != name)
  | directory es, name :: rest =>
      match es.lookup name with
      | some child => directory (putEntry name (child.erase rest) es)
      | none => directory es
  | node, _ :: _ => node
termination_by structural _ names => names

end Node

/-! ## Following paths -/

/-- A place in a tree that is no link: the names from the root to it, and what is
there. -/
structure Place where
  /-- The names from the root. -/
  names : List String
  /-- What is there. -/
  node : Node

/-- Where a path leads. -/
inductive Landing where
  /-- It leads to something that exists. -/
  | present (place : Place)
  /-- It leads to a name that is missing in a directory that exists. -/
  | absent (names : List String)

/-- The longest name of an entry, in bytes. -/
def nameLimit : Nat := 255

/-- The number of links that a path may lead through. -/
def linkLimit : Nat := 40

/-- Follows pieces of a path from a place; `follow` goes on where a link was. -/
def stepThrough (root : Node) (followLast : Bool)
    (follow : Place → List (List Char) → Except PathError Landing) :
    Place → List (List Char) → Except PathError Landing
  | place, [] => .ok (.present place)
  | place, piece :: rest =>
      match place.node with
      | .directory es =>
          match Component.ofInner? piece with
          | some (.name name) =>
              if nameLimit < (keptBytes name).length then .error .nameTooLong
              else
                let names := place.names ++ [name]
                match es.lookup name with
                | none => if rest.isEmpty then .ok (.absent names) else .error .notFound
                | some (.link target) =>
                    if rest.isEmpty && !followLast then
                      .ok (.present ⟨names, .link target⟩)
                    else
                      follow (if Path.isAbsolute ⟨target⟩ then ⟨[], root⟩ else place)
                        (splitOn '/' target.toList ++ rest)
                | some node => stepThrough root followLast follow ⟨names, node⟩ rest
          | some .up =>
              let names := place.names.dropLast
              stepThrough root followLast follow ⟨names, (root.at? names).getD root⟩ rest
          | _ => stepThrough root followLast follow place rest
      | .closed why =>
          if piece.isEmpty then stepThrough root followLast follow place rest else .error why
      | _ => .error .notDirectory

/-- Follows pieces of a path from a place, through at most the given number of
links. -/
def followPieces (root : Node) (followLast : Bool) :
    Nat → Place → List (List Char) → Except PathError Landing
  | 0 => stepThrough root followLast fun _ _ => .error .tooManyLinks
  | links + 1 => stepThrough root followLast (followPieces root followLast links)

namespace Tree

/-- Where a path leads. -/
def land (t : Tree) (followLast : Bool) (p : Path) : Except PathError Landing :=
  if p.text.isEmpty then .error .notFound
  else if p.text.toList.contains '\x00' then .error .holdsNul
  else
    followPieces t.root followLast linkLimit ⟨[], t.root⟩
      (splitOn '/' (t.current.join p.text).text.toList)

/-- The place that a path leads to. -/
def place? (t : Tree) (p : Path) : Except PathError Place := do
  match ← t.land true p with
  | .present place => .ok place
  | .absent _ => .error .notFound

/-- What a path leads to, if it leads to something. -/
def node? (t : Tree) (p : Path) : Option Node := (t.place? p).toOption.map Place.node

/-- The path leads to something. -/
def has (t : Tree) (p : Path) : Bool := (t.node? p).isSome

/-- The path leads to a directory. -/
def hasDirectory (t : Tree) (p : Path) : Bool := (t.node? p).any Node.isDirectory

/-- The path leads to a file. -/
def hasFile (t : Tree) (p : Path) : Bool := (t.node? p).any Node.isFile

/-- The bytes of the file that a path leads to. -/
def readBytes (t : Tree) (p : Path) : Except PathError (List UInt8) := do
  match (← t.place? p).node with
  | .file content => .ok content
  | .closed why => .error why
  | _ => .error .isDirectory

/-- The text of the file that a path leads to. -/
def readText (t : Tree) (p : Path) : Except PathError String := do
  match decode? (← t.readBytes p) with
  | some s => .ok s
  | none => .error .notText

/-! ## Changing trees -/

/-- The tree with a new node at the end of a list of names. -/
def put (t : Tree) (names : List String) (node : Node) : Tree :=
  { t with root := node.put t.root names }

/-- Writes a file.  The directory has to exist, and a path with a slash at its end
is that of a directory. -/
def write (t : Tree) (p : Path) (content : List UInt8) : Except PathError Tree := do
  let bare := p.withoutEndSlashes
  if bare ≠ p then
    if !bare.text.isEmpty then
      let _ ← t.land true bare
    .error .isDirectory
  else
    match ← t.land true p with
    | .absent names => .ok (t.put names (.file content))
    | .present place =>
        if place.node.isDirectory then .error .isDirectory
        else .ok (t.put place.names (.file content))

/-- Makes a directory if only its last name is missing. -/
def makeEntry (t : Tree) (p : Path) : Tree :=
  match t.land true p with
  | .ok (.absent names) => t.put names (.directory [])
  | _ => t

/-- Makes a directory and the directories on the way to it. -/
def makeDirectory (t : Tree) (p : Path) : Tree := p.beginnings.foldl makeEntry t

/-- Writes a file and makes the directories on the way to it. -/
def writeDeep (t : Tree) (p : Path) (content : List UInt8) : Tree :=
  let ready := t.makeDirectory p.directory
  (ready.write p content).toOption.getD ready

/-- Makes a link and the directories on the way to it. -/
def makeLink (t : Tree) (p : Path) (target : String) : Tree :=
  let ready := t.makeDirectory p.directory
  match ready.land false p with
  | .ok (.absent names) => ready.put names (.link target)
  | _ => ready

/-- Removes what a path leads to.  A link is removed itself. -/
def remove (t : Tree) (p : Path) : Tree :=
  match t.land false p with
  | .ok (.present place) => { t with root := t.root.erase place.names }
  | _ => t

end Tree

end TestCensus.Files
